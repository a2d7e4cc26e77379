import AgentReporting.Proofs.Recorder.Filing

/-! # Histories

A history is a list of calls, made one after the other. Each call is one turn, with what
the automation server answered to it. The turns tell what is noted in the book, and
a watched recorder follows that book through every history.
-/

namespace AgentReporting

variable {σ : Type}

/-- What is asked of a recorder. -/
inductive Call (σ : Type) where
  | execute (site : Callsite) (c : Command) (skip : Bool)
  | clearStash
  | step (camera : Option (Attempt σ Value)) (site : Callsite) (request : Recorder.StepRequest)

/-- A call, and the answer of the automation server where it was asked. -/
inductive Turn where
  /-- A command was executed; the call itself may have failed all the same. -/
  | executed (site : Callsite) (c : Command) (skip : Bool) (answer : Except Fault Response)
      (made : Bool)
  | cleared
  | stepped (site : Callsite)

namespace Call

def perform (links : Links σ) : Call σ → Recording σ Unit
  | execute site c skip => discard (Recorder.execute links site c skip)
  | clearStash => Recorder.clearStash links
  | step camera site request => discard (Recorder.step links camera site request)

def turn (links : Links σ) (m : Moment σ) : Call σ → Turn
  | execute site c skip =>
    .executed site c skip ((links.send c).result.run m.trail).1
      (m.run (Recorder.execute links site c skip)).1.isOk
  | clearStash => .cleared
  | step _ site _ => .stepped site

def watched : Call σ → Call (Watched σ)
  | execute site c skip => execute site c skip
  | clearStash => clearStash
  | step camera site request => step (Watched.camera camera) site request

end Call

namespace Turn

variable (switches : Switches)

/-- The note about the running test, unless tests are not reported. -/
def observation (site : Callsite) (force : Bool) : List (Note Numbered) :=
  if switches.testsDisabled then [] else [.observed force (Naming.test site)]

/-- The note about an attempt, which was recorded unless that failed; one that has no key is
not stashed. -/
def placement (site : Callsite) (a : Numbered) (made : Bool) : List (Note Numbered) :=
  if a.attempt.command.isQuit then []
  else if site.insideWait then
    match a.attempt.command.structuralKey with
    | .ok key => if made then [.kept key a] else [.dropped key]
    | .error _ => []
  else [.tried made a]

def notes (number : Nat) : Turn → List (Note Numbered)
  | executed site c skip answer made =>
    .sent c answer ::
      match answer with
      | .ok response =>
        if skip then []
        else observation switches site c.isQuit ++ placement site ⟨number, ⟨c, response⟩⟩ made
      | .error _ => []
  | cleared => [.flushed]
  | stepped site =>
    if switches.reportsDisabled then [] else observation switches site false ++ [.step]

/-- What is noted about turns that are numbered from a given number on. -/
def history (number : Nat) : List Turn → List (Note Numbered)
  | [] => []
  | turn :: rest => turn.notes switches number ++ history (number + 1) rest

theorem history_append (number : Nat) (xs ys : List Turn) :
    history switches number (xs ++ ys) =
      history switches number xs ++ history switches (number + xs.length) ys := by
  induction xs generalizing number with
  | nil => rfl
  | cons turn rest ih =>
    rw [List.cons_append, history, history, ih, List.append_assoc, List.length_cons,
      Nat.add_right_comm, Nat.add_assoc number]

variable {switches} {number : Nat} {note : Note Numbered} {a : Numbered}

theorem about?_of_mem_observation {site : Callsite} {force : Bool}
    (h : note ∈ observation switches site force) : note.about? = none := by
  unfold observation at h
  split at h
  · exact absurd h List.not_mem_nil
  · rw [List.mem_singleton.mp h]
    rfl

theorem attempt?_of_mem_observation {site : Callsite} {force : Bool}
    (h : note ∈ observation switches site force) : note.attempt? = none := by
  cases ha : note.attempt? with
  | none => rfl
  | some a => cases (about?_of_mem_observation h).symm.trans (Note.about?_of_attempt ha)

theorem mem_placement_cases {site : Callsite} {made : Bool} (h : note ∈ placement site a made) :
    placement site a made = [note] ∧ ((∃ key, note = .dropped key) ∨ note = .lost a ∨
      made = true ∧ ((∃ key, note = .kept key a) ∨ note = .direct a)) := by
  revert h
  unfold placement
  cases a.attempt.command.isQuit with
  | true => exact fun h => absurd h List.not_mem_nil
  | false =>
    cases site.insideWait with
    | false =>
      intro h
      cases made <;> simp_all [Note.tried]
    | true =>
      cases a.attempt.command.structuralKey with
      | error fault => exact fun h => absurd h List.not_mem_nil
      | ok key =>
        intro h
        cases made <;> simp_all

theorem about_of_mem_placement {site : Callsite} {made : Bool} {b : Numbered}
    (h : note ∈ placement site b made) (ha : note.about? = some a) : a = b := by
  obtain ⟨-, ⟨key, rfl⟩ | rfl | ⟨-, ⟨key, rfl⟩ | rfl⟩⟩ := mem_placement_cases h
  · cases ha
  · exact (Option.some.inj ha).symm
  · exact (Option.some.inj ha).symm
  · exact (Option.some.inj ha).symm

theorem made_of_mem_placement {site : Callsite} {made : Bool} {b : Numbered}
    (h : note ∈ placement site b made) (ha : note.attempt? = some a) : made = true := by
  obtain ⟨-, ⟨key, rfl⟩ | rfl | ⟨hm, -⟩⟩ := mem_placement_cases h
  · cases ha
  · cases ha
  · exact hm

/-- A note about an attempt comes from a turn in which it was carried out. -/
theorem about_of_mem_notes {turn : Turn} (h : note ∈ turn.notes switches number)
    (ha : note.about? = some a) :
    a.number = number ∧ ∃ site made, note ∈ placement site a made ∧
      turn = .executed site a.attempt.command false (.ok a.attempt.response) made := by
  cases turn with
  | cleared =>
    rw [List.mem_singleton.mp h] at ha
    cases ha
  | stepped site =>
    rw [notes] at h
    split at h
    · exact absurd h List.not_mem_nil
    · rcases List.mem_append.mp h with ho | hs
      · cases (about?_of_mem_observation ho).symm.trans ha
      · rw [List.mem_singleton.mp hs] at ha
        cases ha
  | executed site c skip answer made =>
    rcases List.mem_cons.mp h with rfl | h
    · cases ha
    · cases answer with
      | error fault => exact absurd h List.not_mem_nil
      | ok response =>
        cases skip with
        | true => exact absurd h List.not_mem_nil
        | false =>
          rcases List.mem_append.mp h with ho | hp
          · cases (about?_of_mem_observation ho).symm.trans ha
          · obtain rfl := about_of_mem_placement hp ha
            exact ⟨rfl, site, made, hp, rfl⟩

theorem of_mem_notes {turn : Turn} (h : note ∈ turn.notes switches number)
    (ha : note.attempt? = some a) :
    a.number = number ∧ ∃ site, note ∈ placement site a true ∧
      turn = .executed site a.attempt.command false (.ok a.attempt.response) true := by
  obtain ⟨hn, site, made, hp, rfl⟩ := about_of_mem_notes h (Note.about?_of_attempt ha)
  obtain rfl := made_of_mem_placement hp ha
  exact ⟨hn, site, hp, rfl⟩

theorem turn_of_mem_history {turns : List Turn} (h : note ∈ history switches number turns)
    (ha : note.attempt? = some a) : ∃ k site, a.number = number + k ∧
      note ∈ placement site a true ∧
      turns[k]? = some (.executed site a.attempt.command false (.ok a.attempt.response) true) := by
  induction turns generalizing number with
  | nil => exact absurd h List.not_mem_nil
  | cons turn rest ih =>
    rcases List.mem_append.mp h with ht | hr
    · obtain ⟨hn, site, hp, rfl⟩ := of_mem_notes ht ha
      exact ⟨0, site, hn, hp, rfl⟩
    · obtain ⟨k, site, hn, hp, hk⟩ := ih hr
      exact ⟨k + 1, site, by omega, hp, hk⟩

/-- An attempt is noted after the command was sent and answered. -/
theorem sent_before {turns : List Turn} {pre post : List (Note Numbered)}
    (h : pre ++ note :: post = history switches number turns) (ha : note.attempt? = some a) :
    .sent a.attempt.command (.ok a.attempt.response) ∈ pre := by
  induction turns generalizing number pre with
  | nil => simp [history] at h
  | cons turn rest ih =>
    rcases split_append h with ⟨pre, rfl, hr⟩ | ⟨mid, ht, -⟩
    · exact List.mem_append_right _ (ih hr)
    · have hm : note ∈ turn.notes switches number := by rw [ht]; simp
      obtain ⟨-, site, -, rfl⟩ := of_mem_notes hm ha
      cases pre with
      | nil =>
        rw [notes, List.nil_append] at ht
        rw [← (List.cons_eq_cons.mp ht).1] at ha
        cases ha
      | cons first pre =>
        rw [notes, List.cons_append] at ht
        rw [← (List.cons_eq_cons.mp ht).1]
        exact List.mem_cons_self

end Turn

namespace Moment

def performed (links : Links σ) (m : Moment σ) (call : Call σ) : Moment σ :=
  (m.run (call.perform links)).2

def play (links : Links σ) (m : Moment σ) (calls : List (Call σ)) : Moment σ :=
  calls.foldl (performed links) m

def turns (links : Links σ) (m : Moment σ) : List (Call σ) → List Turn
  | [] => []
  | call :: rest => call.turn links m :: turns links (m.performed links call) rest

theorem turns_append (links : Links σ) (m : Moment σ) (xs ys : List (Call σ)) :
    m.turns links (xs ++ ys) = m.turns links xs ++ (m.play links xs).turns links ys := by
  induction xs generalizing m with
  | nil => rfl
  | cons call rest ih =>
    rw [List.cons_append, turns, ih]
    rfl

theorem length_turns (links : Links σ) (m : Moment σ) (calls : List (Call σ)) :
    (m.turns links calls).length = calls.length := by
  induction calls generalizing m with
  | nil => rfl
  | cons call rest ih => exact congrArg (· + 1) (ih _)

theorem play_append (links : Links σ) (m : Moment σ) (xs ys : List (Call σ)) :
    m.play links (xs ++ ys) = (m.play links xs).play links ys := List.foldl_append

/-- An attempt that was carried out inside a wait is stashed under its key. -/
theorem performed_inside_wait (links : Links σ) (m : Moment σ) {site : Callsite} {c : Command}
    {response : Response} {t : Trail σ} {key : String}
    (hs : (links.send c).result.run m.trail = (.ok response, t)) (hq : c.isQuit = false)
    (hw : site.insideWait = true) (hk : c.structuralKey = .ok key) :
    m.performed links (.execute site c false) =
      (observed links { m with trail := t } (Naming.test site) false).stashed key
        ⟨c, response⟩ := by
  simp only [performed, Call.perform, run_discard, run_execute, hs, Bool.false_eq_true, if_false,
    run_report, run_file, hq, hw, if_true, hk]

theorem isOk_execute_inside_wait (links : Links σ) (m : Moment σ) {site : Callsite} {c : Command}
    {response : Response} (hs : ((links.send c).result.run m.trail).1 = .ok response)
    (hq : c.isQuit = false) (hw : site.insideWait = true) {key : String}
    (hk : c.structuralKey = .ok key) :
    (m.run (Recorder.execute links site c false)).1.isOk =
      (Attempted.copyFault? ⟨c, response⟩).isNone := by
  rw [run_execute]
  generalize (links.send c).result.run m.trail = done at hs
  obtain ⟨answer, t⟩ := done
  obtain rfl := hs
  simp only [Bool.false_eq_true, if_false, run_report, run_file, hq, hw, if_true, hk, isOk_map]
  cases Attempted.copyFault? ⟨c, response⟩ <;> rfl

theorem performed_outside_wait (links : Links σ) (m : Moment σ) {site : Callsite} {c : Command}
    {response : Response} {t : Trail σ} (hs : (links.send c).result.run m.trail = (.ok response, t))
    (hq : c.isQuit = false) (hw : site.insideWait = false) :
    m.performed links (.execute site c false) =
      ((observed links { m with trail := t } (Naming.test site) false).cleared links).reported
        links s!"Failed to report command [{c.name}]" ⟨c, response⟩ := by
  simp only [performed, Call.perform, run_discard, run_execute, hs, Bool.false_eq_true, if_false,
    run_report, run_file, hq, hw]

open Recorder

namespace Follows

variable (links : Links σ) {m : Moment (Watched σ)} {book : Book Numbered}

theorem observation (h : book.Describes m.recorder) (site : Callsite) (force : Bool) :
    Follows links book (Turn.observation m.recorder.switches site force) m
      (m.observed links.watched (Naming.test site) force) := by
  rw [Turn.observation, Moment.observed]
  cases m.recorder.switches.testsDisabled with
  | true => exact refl h
  | false => exact observed links h (Naming.test site) force

theorem placement (h : book.Describes m.recorder) (site : Callsite) (a : Numbered) :
    let filed := m.run (file links.watched site a.attempt)
    Follows links book (Turn.placement site a filed.1.isOk) m filed.2 := by
  intro filed
  rw [show filed = m.run (file links.watched site a.attempt) from rfl, run_file, Turn.placement]
  cases a.attempt.command.isQuit with
  | true => exact refl h
  | false =>
    cases site.insideWait with
    | false =>
      simp only [Bool.false_eq_true, if_false, isOk_map]
      exact tried links h _ a
    | true =>
      cases a.attempt.command.structuralKey with
      | error fault => exact refl h
      | ok key =>
        cases hc : a.attempt.copyFault? with
        | none => exact kept links h key hc
        | some fault => exact dropped links h key (by rw [hc]; exact nofun)

theorem executed (h : book.Describes m.recorder) (number : Nat) (site : Callsite) (c : Command)
    (skip : Bool) :
    let call : Call (Watched σ) := .execute site c skip
    Follows links book ((call.turn links.watched m).notes m.recorder.switches number) m
      (m.performed links.watched call) := by
  intro call
  have hs := sent links h c
  have hm : m.performed links.watched call = (m.run (execute links.watched site c skip)).2 := rfl
  have ht : call.turn links.watched m =
      .executed site c skip ((links.watched.send c).result.run m.trail).1
        (m.run (execute links.watched site c skip)).1.isOk := rfl
  rw [hm, ht, run_execute]
  generalize (links.watched.send c).result.run m.trail = done at hs
  obtain ⟨answer, trail⟩ := done
  cases answer with
  | error fault => exact hs
  | ok response =>
    cases skip with
    | true => exact hs
    | false =>
      have ho := observation links hs.describes site c.isQuit
      have hp := placement links ho.describes site ⟨number, ⟨c, response⟩⟩
      simp only [Bool.false_eq_true, if_false, run_report, isOk_map]
      exact hs.trans (ho.trans hp)

theorem stepped (h : book.Describes m.recorder) (number : Nat)
    (camera : Option (Attempt σ Value)) (site : Callsite) (request : StepRequest) :
    let call := (Call.step camera site request).watched
    Follows links book ((call.turn links.watched m).notes m.recorder.switches number) m
      (m.performed links.watched call) := by
  intro call
  have hm : m.performed links.watched call =
      (m.run (step links.watched (Watched.camera camera) site request)).2 := rfl
  have ht : call.turn links.watched m = .stepped site := rfl
  rw [hm, ht, Turn.notes, run_step]
  cases m.recorder.switches.reportsDisabled with
  | true => exact refl h
  | false =>
    have ho := observation links h site false
    exact ho.trans (described links ho.describes camera request)

theorem performed (h : book.Describes m.recorder) (number : Nat) (call : Call σ) :
    Follows links book ((call.watched.turn links.watched m).notes m.recorder.switches number) m
      (m.performed links.watched call.watched) := by
  cases call with
  | execute site c skip => exact executed links h number site c skip
  | clearStash => exact flushed links h
  | step camera site request => exact stepped links h number camera site request

theorem play (h : book.Describes m.recorder) (number : Nat) (calls : List (Call σ)) :
    Follows links book (Turn.history m.recorder.switches number
      (m.turns links.watched (calls.map .watched))) m
      (m.play links.watched (calls.map .watched)) := by
  induction calls generalizing book m number with
  | nil => exact refl h
  | cons call rest ih =>
    have hc := performed links h number call
    have hr := ih hc.describes (number + 1)
    rw [show (m.performed links.watched call.watched).recorder.switches = m.recorder.switches from
      congrArg Terms.switches hc.terms] at hr
    exact hc.trans hr

end Follows

end Moment

end AgentReporting
