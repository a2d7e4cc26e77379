import AgentReporting.Proofs.Recorder.Journal
import AgentReporting.Proofs.Recorder.Periods

/-! # Switching reports off and on

A history may set the switches for reports and for command reports between its calls. What
is stashed while commands are not reported stays in the stash, and is reported after all if
commands are reported again by the time of the next flush.
-/

namespace AgentReporting

variable {σ : Type}

namespace Turn

variable {switches : Switches} {number : Nat} {note : Note Numbered} {a : Numbered}

theorem kept_mem_placement {site : Callsite} {made : Bool} {key : String} :
    .kept key a ∈ placement site a made ↔ a.attempt.command.isQuit = false ∧
      site.insideWait = true ∧ a.attempt.command.structuralKey = .ok key ∧ made = true := by
  unfold placement
  cases a.attempt.command.isQuit with
  | true => simp
  | false =>
    cases site.insideWait with
    | false => cases made <;> simp [Note.tried]
    | true =>
      cases a.attempt.command.structuralKey with
      | error fault => simp
      | ok k => cases made <;> simp [eq_comm]

theorem getLast?_of_attempt {turn : Turn} (h : note ∈ turn.notes switches number)
    (ha : note.attempt? = some a) : (turn.notes switches number).getLast? = some note := by
  obtain ⟨rfl, site, hp, rfl⟩ := of_mem_notes h ha
  simp only [notes, Bool.false_eq_true, if_false]
  rw [(mem_placement_cases hp).1, ← List.cons_append, List.getLast?_concat]

end Turn

/-- A call, or a switch that is set between calls. -/
inductive Deed (σ : Type) where
  | call (call : Call σ)
  | disableReports (disabled : Bool)
  | disableCommandReports (disabled : Bool)

namespace Deed

def perform (links : Links σ) : Deed σ → Recording σ Unit
  | call c => c.perform links
  | disableReports disabled => Recorder.disableReports disabled
  | disableCommandReports disabled => Recorder.disableCommandReports links disabled

def notes (links : Links σ) (m : Moment σ) (number : Nat) : Deed σ → List (Note Numbered)
  | call c => (c.turn links m).notes m.recorder.switches number
  | disableReports _ => []
  | disableCommandReports disabled => if disabled then [.flushed] else []

def watched : Deed σ → Deed (Watched σ)
  | call c => .call c.watched
  | disableReports disabled => .disableReports disabled
  | disableCommandReports disabled => .disableCommandReports disabled

variable {links : Links σ} {m : Moment σ} {number : Nat}

theorem number_of_mem_notes {deed : Deed σ} {note : Note Numbered} {a : Numbered}
    (h : note ∈ deed.notes links m number) (ha : note.attempt? = some a) : a.number = number := by
  cases deed with
  | call call => exact (Turn.of_mem_notes h ha).1
  | disableReports disabled => exact absurd h List.not_mem_nil
  | disableCommandReports disabled =>
    cases disabled with
    | true =>
      rw [List.mem_singleton.mp h] at ha
      cases ha
    | false => exact absurd h List.not_mem_nil

theorem getLast?_of_attempt {deed : Deed σ} {note : Note Numbered} {a : Numbered}
    (h : note ∈ deed.notes links m number) (ha : note.attempt? = some a) :
    (deed.notes links m number).getLast? = some note := by
  cases deed with
  | call call => exact Turn.getLast?_of_attempt h ha
  | disableReports disabled => exact absurd h List.not_mem_nil
  | disableCommandReports disabled =>
    cases disabled with
    | true =>
      rw [List.mem_singleton.mp h] at ha
      cases ha
    | false => exact absurd h List.not_mem_nil

theorem attempts_length_le (links : Links σ) (m : Moment σ) (number : Nat) (deed : Deed σ) :
    ((deed.notes links m number).filterMap Note.attempt?).length ≤ 1 := by
  cases deed with
  | call call => exact Turn.attempts_length_le _ number _
  | disableReports disabled => exact Nat.zero_le 1
  | disableCommandReports disabled => cases disabled <;> exact Nat.zero_le 1

end Deed

namespace Moment

open Recorder

section Course

variable (links : Links σ) (m : Moment σ)

def enacted (deed : Deed σ) : Moment σ := (m.run (deed.perform links)).2

def course (deeds : List (Deed σ)) : Moment σ := deeds.foldl (enacted links) m

def journal (m : Moment σ) (number : Nat) : List (Deed σ) → List Dated
  | [] => []
  | deed :: rest =>
    (deed.notes links m number).map (Dated.mk (terms links m.recorder)) ++
      journal (m.enacted links deed) (number + 1) rest

theorem journal_append (number : Nat) (xs ys : List (Deed σ)) :
    m.journal links number (xs ++ ys) =
      m.journal links number xs ++ (m.course links xs).journal links (number + xs.length) ys := by
  induction xs generalizing m number with
  | nil => rfl
  | cons deed rest ih =>
    rw [List.cons_append, journal, journal, ih, List.append_assoc, List.length_cons,
      Nat.add_right_comm, Nat.add_assoc number]
    rfl

variable {links} {m}

theorem number_of_mem_journal {number : Nat} {deeds : List (Deed σ)} {d : Dated} {a : Numbered}
    (h : d ∈ m.journal links number deeds) (ha : d.note.attempt? = some a) :
    number ≤ a.number ∧ a.number < number + deeds.length := by
  induction deeds generalizing m number with
  | nil => exact absurd h List.not_mem_nil
  | cons deed rest ih =>
    rw [List.length_cons]
    rcases List.mem_append.mp h with hd | hr
    · obtain ⟨note, hn, rfl⟩ := List.mem_map.mp hd
      have := Deed.number_of_mem_notes hn ha
      omega
    · have := ih hr
      omega

theorem attempts_journal_ordered (number : Nat) (deeds : List (Deed σ)) :
    ((m.journal links number deeds).filterMap (·.note.attempt?)).Pairwise
      (·.number < ·.number) := by
  induction deeds generalizing m number with
  | nil => exact .nil
  | cons deed rest ih =>
    rw [journal, List.filterMap_append, List.filterMap_map, List.pairwise_append]
    refine ⟨?_, ih (number + 1), ?_⟩
    · have hl := Deed.attempts_length_le links m number deed
      change ((deed.notes links m number).filterMap Note.attempt?).Pairwise _
      generalize (deed.notes links m number).filterMap Note.attempt? = attempts at hl
      match attempts with
      | [] => exact .nil
      | [a] => exact List.pairwise_singleton _ a
    · intro a ha b hb
      obtain ⟨note, hn, hna⟩ := List.mem_filterMap.mp ha
      obtain ⟨d, hd, hdb⟩ := List.mem_filterMap.mp hb
      have := Deed.number_of_mem_notes hn hna
      have := number_of_mem_journal hd hdb
      omega

end Course

/-- From one moment to the next, the command reports of a journal were handed over. -/
structure Reports (book : Book Numbered) (journal : List Dated) (m m' : Moment (Watched σ)) :
    Prop where
  describes : (book.after (journal.map (·.note))).Describes m'.recorder
  handed : ∃ events, m'.events = m.events ++ events ∧
    List.Forall₂ Numbered.ReportedAs (book.reported journal) (events.filterMap Event.command?)

namespace Reports

variable {book : Book Numbered} {m m' m'' : Moment (Watched σ)} {xs ys : List Dated}

theorem trans (h : Reports book xs m m')
    (h' : Reports (book.after (xs.map (·.note))) ys m' m'') : Reports book (xs ++ ys) m m'' := by
  obtain ⟨_, events, he, hs⟩ := h
  obtain ⟨hb, more, he', hs'⟩ := h'
  refine ⟨by rwa [List.map_append, Book.after_append], events ++ more, ?_, ?_⟩
  · rw [he', he, List.append_assoc]
  · rw [Book.reported_append, List.filterMap_append]
    exact List.rel_append hs hs'

theorem of_follows {links : Links σ} {notes : List (Note Numbered)}
    (h : Follows links book notes m m') :
    Reports book (notes.map (Dated.mk (terms links.watched m.recorder))) m m' := by
  obtain ⟨hb, -, events, he, hs⟩ := h
  have hn : (notes.map (Dated.mk (terms links.watched m.recorder))).map (·.note) = notes := by
    rw [List.map_map]
    exact List.map_id notes
  refine ⟨hn.symm ▸ hb, events, he, ?_⟩
  rw [Book.reported_of_terms]
  cases ht : (terms links.watched m.recorder).takesCommands with
  | true => exact hs.commands ht
  | false =>
    rw [hs.no_commands ht]
    exact .nil

theorem switched (h : book.Describes m.recorder) (f : Switches → Switches) :
    Reports book [] m (m.run (setSwitches f)).2 :=
  ⟨⟨h.stash, h.test⟩, [], (List.append_nil _).symm, .nil⟩

theorem enacted (links : Links σ) (h : book.Describes m.recorder) (number : Nat) (deed : Deed σ) :
    Reports book ((deed.watched.notes links.watched m number).map
      (Dated.mk (terms links.watched m.recorder))) m (m.enacted links.watched deed.watched) := by
  cases deed with
  | call call => exact of_follows (Follows.performed links h number call)
  | disableReports disabled =>
    exact switched h fun s => { s with reportsDisabled := disabled }
  | disableCommandReports disabled =>
    cases disabled with
    | false => exact switched h fun s => { s with commandsDisabled := false }
    | true =>
      have hf := of_follows (Follows.flushed links h)
      exact hf.trans (switched hf.describes fun s => { s with commandsDisabled := true })

theorem course (links : Links σ) (h : book.Describes m.recorder) (number : Nat)
    (deeds : List (Deed σ)) :
    Reports book (m.journal links.watched number (deeds.map .watched)) m
      (m.course links.watched (deeds.map .watched)) := by
  induction deeds generalizing book m number with
  | nil => exact ⟨h, [], (List.append_nil _).symm, .nil⟩
  | cons deed rest ih =>
    have hd := enacted links h number deed
    exact hd.trans (ih hd.describes (number + 1))

end Reports

section Watched

variable (links : Links σ)

theorem terms_watched (recorder : Recorder) :
    terms links.watched recorder = terms links recorder := by
  simp [terms, Links.watched]

theorem unwatched_enacted (m : Moment (Watched σ)) (deed : Deed σ) :
    (m.enacted links.watched deed.watched).unwatched = m.unwatched.enacted links deed := by
  cases deed with
  | call call => exact unwatched_performed links m call
  | disableReports disabled => exact (run_unseen m (Recording.Unseen.change _)).2
  | disableCommandReports disabled =>
    cases disabled with
    | false => exact (run_unseen m (Recording.Unseen.change _)).2
    | true =>
      refine (run_unseen m (Recording.Unseen.seq (clearStash_unseen links) fun _ => ?_)).2
      exact Recording.Unseen.change _

theorem journal_watched (m : Moment (Watched σ)) (number : Nat) (deeds : List (Deed σ)) :
    m.journal links.watched number (deeds.map .watched) =
      m.unwatched.journal links number deeds := by
  induction deeds generalizing m number with
  | nil => rfl
  | cons deed rest ih =>
    have hn : deed.watched.notes links.watched m number = deed.notes links m.unwatched number := by
      cases deed with
      | call call => exact congrArg (Turn.notes _ number) (turn_watched links m call)
      | _ => rfl
    rw [List.map_cons, journal, journal, ih, unwatched_enacted, hn, terms_watched]
    rfl

variable (m : Moment σ)

def witnessed (deeds : List (Deed σ)) : Moment (Watched σ) :=
  m.watched.course links.watched (deeds.map .watched)

def reports (deeds : List (Deed σ)) : List Numbered :=
  m.book.reported (m.journal links 0 deeds)

variable {m}

/-- The command reports of a course are those of its journal, in the order of the attempts. -/
theorem reports_handed (hs : m.recorder.stash = []) (deeds : List (Deed σ)) :
    List.Forall₂ Numbered.ReportedAs (m.reports links deeds)
      ((m.witnessed links deeds).events.filterMap Event.command?) := by
  have hd : m.book.Describes m.watched.recorder := ⟨congrArg Stash.entries hs, rfl⟩
  obtain ⟨-, events, he, hh⟩ := Reports.course links hd 0 deeds
  rw [journal_watched] at hh
  rwa [witnessed, he]

theorem attempts_of_course (deeds : List (Deed σ)) :
    (m.book.attempts (m.journal links 0 deeds)).Pairwise (·.number < ·.number) :=
  attempts_journal_ordered 0 deeds

theorem reports_ordered (deeds : List (Deed σ)) :
    (m.reports links deeds).Pairwise (·.number < ·.number) :=
  (attempts_of_course links deeds).sublist (Book.reported_sublist _)

/-- An attempt is reported if it was made outside a wait while commands were reported, or kept
in a wait and released afterwards. -/
theorem mem_reports_iff {early late : List (Deed σ)} {deed : Deed σ} {a : Numbered}
    (ha : a.number = early.length) :
    a ∈ m.reports links (early ++ deed :: late) ↔
      (.direct a ∈ deed.notes links (m.course links early) early.length ∧
        (terms links (m.course links early).recorder).takesCommands = true) ∨
      ∃ key, .kept key a ∈ deed.notes links (m.course links early) early.length ∧
        Released key
          ((m.course links (early ++ [deed])).journal links (early.length + 1) late) := by
  have hj : m.journal links 0 (early ++ deed :: late) = m.journal links 0 early ++
      ((deed.notes links (m.course links early) early.length).map
        (Dated.mk (terms links (m.course links early).recorder)) ++
          (m.course links (early ++ [deed])).journal links (early.length + 1) late) := by
    rw [journal_append, Nat.zero_add, course, course, List.foldl_concat]
    rfl
  have hd : (m.book.attempts (m.journal links 0 (early ++ deed :: late))).Nodup :=
    (attempts_of_course links _).imp fun hlt he => Nat.ne_of_lt hlt (congrArg Numbered.number he)
  by_cases hm : ∃ note ∈ deed.notes links (m.course links early) early.length,
      note.attempt? = some a
  · obtain ⟨note, hm, hna⟩ := hm
    have hl := Deed.getLast?_of_attempt hm hna
    have only {n : Note Numbered} (hna : n.attempt? = some a) :
        n ∈ deed.notes links (m.course links early) early.length ↔ note = n := by
      constructor
      · intro hn
        exact Option.some.inj (hl.symm.trans (Deed.getLast?_of_attempt hn hna))
      · rintro rfl
        exact hm
    obtain ⟨before, hb⟩ := List.getLast?_eq_some_iff.mp hl
    rw [hb, List.map_append, List.append_assoc, List.map_singleton, List.singleton_append,
      ← List.append_assoc] at hj
    rw [hj] at hd
    rw [reports, hj, Book.reported_iff hna hd, only rfl]
    simp only [only (n := .kept _ a) rfl]
  · -- what is not noted in this deed is not noted in any
    refine iff_of_false (fun hr => ?_) ?_
    · obtain ⟨d, hd, hda⟩ := List.mem_filterMap.mp (Book.mem_attempts_of_reported hr)
      rw [hj] at hd
      rcases List.mem_append.mp hd with hd | hd
      · have := number_of_mem_journal hd hda
        omega
      · rcases List.mem_append.mp hd with hd | hd
        · obtain ⟨note, hn, rfl⟩ := List.mem_map.mp hd
          exact hm ⟨note, hn, hda⟩
        · have := number_of_mem_journal hd hda
          omega
    · rintro (⟨hn, -⟩ | ⟨key, hn, -⟩)
      · exact hm ⟨_, hn, rfl⟩
      · exact hm ⟨_, hn, rfl⟩

theorem takesCommands_of_disabled {recorder : Recorder}
    (hd : recorder.switches.reportsDisabled = true ∨ recorder.switches.commandsDisabled = true) :
    (terms links recorder).takesCommands = false := by
  rcases hd with hd | hd
  · simp [Terms.takesCommands, Terms.takesReports, terms, hd]
  · simp [Terms.takesCommands, terms, hd]

/-- A call keeps its attempt if it is recorded, inside a wait, under a key and as a copy. -/
theorem kept_mem_notes_iff {m : Moment σ} {number : Nat} {site : Callsite} {c : Command}
    {skip : Bool} {response : Response} (hr : ((links.send c).result.run m.trail).1 = .ok response)
    (key : String) : .kept key ⟨number, ⟨c, response⟩⟩ ∈
      (Deed.call (.execute site c skip)).notes links m number ↔ skip = false ∧ c.isQuit = false ∧
        site.insideWait = true ∧ Attempted.copyFault? ⟨c, response⟩ = none ∧
          c.structuralKey = .ok key := by
  have hn : (Deed.call (.execute site c skip)).notes links m number =
      .sent c (.ok response) :: if skip then []
        else Turn.observation m.recorder.switches site c.isQuit ++
          Turn.placement site ⟨number, ⟨c, response⟩⟩
            (m.run (execute links site c skip)).1.isOk := by
    change Turn.notes _ _ (.executed site c skip _ _) = _
    rw [hr]
    rfl
  rw [hn]
  cases skip with
  | true => simp
  | false =>
    have ho : .kept key ⟨number, ⟨c, response⟩⟩ ∉
        Turn.observation m.recorder.switches site c.isQuit := by
      intro ho
      cases Turn.attempt?_of_mem_observation ho
    simp only [Bool.false_eq_true, if_false, List.mem_cons, reduceCtorEq, false_or,
      List.mem_append, ho, Turn.kept_mem_placement, true_and]
    refine and_congr_right fun hq => and_congr_right fun hw => ?_
    rw [and_comm (b := c.structuralKey = _)]
    refine and_congr_right fun hkey => ?_
    rw [isOk_execute_inside_wait links _ hr hq hw hkey, Option.isNone_iff_eq_none]

/-- An attempt that was made while commands were not reported is reported after all if and only
if it was stashed, as a copy, and is still in the stash at the next flush, which comes while
commands are reported again. -/
theorem reported_although_disabled_iff (hs : m.recorder.stash = []) {early late : List (Deed σ)}
    {site : Callsite} {c : Command} {skip : Bool} {response : Response}
    (hr : ((links.send c).result.run (m.course links early).trail).1 = .ok response)
    (hd : (m.course links early).recorder.switches.reportsDisabled = true ∨
      (m.course links early).recorder.switches.commandsDisabled = true) :
    let deed : Deed σ := .call (.execute site c skip)
    let deeds := early ++ deed :: late
    List.Forall₂ Numbered.ReportedAs (m.reports links deeds)
        ((m.witnessed links deeds).events.filterMap Event.command?) ∧
      (m.reports links deeds).Pairwise (·.number < ·.number) ∧
      (⟨early.length, ⟨c, response⟩⟩ ∈ m.reports links deeds ↔
        skip = false ∧ c.isQuit = false ∧ site.insideWait = true ∧
          Attempted.copyFault? ⟨c, response⟩ = none ∧ ∃ key, c.structuralKey = .ok key ∧
            Released key
              ((m.course links (early ++ [deed])).journal links (early.length + 1) late)) := by
  intro deed deeds
  refine ⟨reports_handed links hs deeds, reports_ordered links deeds, ?_⟩
  rw [mem_reports_iff links rfl, takesCommands_of_disabled links hd]
  simp [deed, kept_mem_notes_iff links hr, and_assoc]

theorem attempt_of_a_disabled_wait :
    let links := ScriptedLinks.links true
    let m : Moment ScriptedLinks := ⟨{}, { outside := {} }⟩
    let site : Callsite := .within [.wait, .inTest "test_a"]
    let skip := false
    let poll : Call ScriptedLinks := .execute site pollCommand skip
    let early : List (Deed ScriptedLinks) := [.disableReports true]
    let late : List (Deed ScriptedLinks) := [.disableReports false, .call .clearStash]
    let a : Numbered := ⟨1, ⟨pollCommand, Response.done pollCommand⟩⟩
    m.recorder.stash = [] ∧
      ((links.send pollCommand).result.run (m.course links early).trail).1 =
        .ok (Response.done pollCommand) ∧
      (m.course links early).recorder.switches.reportsDisabled = true ∧
      List.Forall₂ Numbered.ReportedAs (m.reports links (early ++ .call poll :: late))
        ((m.witnessed links (early ++ .call poll :: late)).events.filterMap Event.command?) ∧
      (m.reports links (early ++ .call poll :: late)).Pairwise (·.number < ·.number) ∧
      (a ∈ m.reports links (early ++ .call poll :: late) ↔
        skip = false ∧ pollCommand.isQuit = false ∧ site.insideWait = true ∧
          a.attempt.copyFault? = none ∧ ∃ key, pollCommand.structuralKey = .ok key ∧
            Released key ((m.course links (early ++ [.call poll])).journal links 2 late)) := by
  intro links m site skip poll early late a
  exact ⟨rfl, rfl, rfl, reported_although_disabled_iff links rfl rfl (.inl rfl)⟩

/-- What was executed while reports were disabled is reported once they are enabled again. -/
theorem disabled_attempt_is_reported :
    let links := ScriptedLinks.links true
    let m : Moment ScriptedLinks := ⟨{}, { outside := {} }⟩
    let poll : Call ScriptedLinks := .execute (.within [.wait, .inTest "test_a"]) pollCommand false
    (m.course links [.disableReports true]).recorder.switches.reportsDisabled = true ∧
      (m.witnessed links [.disableReports true, .call poll, .disableReports false,
        .call .clearStash]).events.filterMap Event.command? =
          [.command pollCommand .null true .null] := by
  intro links m poll
  have hk : pollCommand.keyText?.isSome = true := by cbv
  obtain ⟨key, hk⟩ := Command.exists_structuralKey hk
  have ha : Naming.test (.within [.wait, .inTest "test_a"]) = some "test_a" :=
    @Naming.test_inTest "test_a" [.wait] (by simp)
  refine ⟨rfl, ?_⟩
  have hp (m : Moment (Watched ScriptedLinks)) : m.enacted links.watched (Deed.call poll).watched =
      m.performed links.watched (.execute (.within [.wait, .inTest "test_a"]) pollCommand false) :=
    rfl
  simp only [witnessed, course, List.map_cons, List.map_nil, List.foldl_cons, List.foldl_nil, hp]
  rw [performed_inside_wait links.watched _ rfl rfl rfl hk, ha]
  rfl

end Watched

end Moment

end AgentReporting
