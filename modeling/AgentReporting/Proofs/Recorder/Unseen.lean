import AgentReporting.Proofs.Recorder.Dialogue
import AgentReporting.Proofs.Recorder.History

/-! # Watching goes unseen

An operation over watched links gives the answers that it gives over the links themselves,
and leaves the same behind, apart from the events.
-/

namespace AgentReporting

variable {σ α β : Type}

/-- The second act does what the first one does, under a watch. -/
def Act.Unseen (act : Act σ α) (act' : Act (Watched σ) α) : Prop :=
  ∀ t : Trail (Watched σ), (act'.run t).1 = (act.run t.unwatched).1 ∧
    (act'.run t).2.unwatched = (act.run t.unwatched).2

namespace Act.Unseen

variable {act : Act σ α} {act' : Act (Watched σ) α}

theorem answer (a : α) : Unseen (σ := σ) (Pure.pure a) (Pure.pure a) := fun _ => ⟨rfl, rfl⟩

theorem seq {f : α → Act σ β} {f' : α → Act (Watched σ) β} (h : Unseen act act')
    (hf : ∀ a, Unseen (f a) (f' a)) : Unseen (act >>= f) (act' >>= f') := Mirrored.seq h hf

theorem ite {p : Prop} [Decidable p] {other : Act σ α} {other' : Act (Watched σ) α}
    (h : Unseen act act') (ho : Unseen other other') :
    Unseen (if p then act else other) (if p then act' else other') := by
  split
  · exact h
  · exact ho

theorem within : Unseen act (Watched.within act) := fun _ => ⟨rfl, rfl⟩

theorem warn (text : String) : Unseen (σ := σ) (Act.warn text) (Act.warn text) :=
  fun _ => ⟨rfl, rfl⟩

theorem error (text : String) : Unseen (σ := σ) (Act.error text) (Act.error text) :=
  fun _ => ⟨rfl, rfl⟩

theorem freshId : Unseen (σ := σ) Act.freshId Act.freshId := fun _ => ⟨rfl, rfl⟩

theorem send (links : Links σ) (c : Command) :
    Unseen (links.send c).result (links.watched.send c).result := fun _ => ⟨rfl, rfl⟩

end Act.Unseen

theorem Links.isSome_watched (links : Links σ) :
    links.watched.submit.isSome = links.submit.isSome := by
  simp [watched]

theorem Links.hand_unseen (links : Links σ) (s : Submission) :
    Act.Unseen (links.hand s) (links.watched.hand s) := by
  unfold hand watched
  cases links.submit with
  | none => exact .answer _
  | some submit => exact fun _ => ⟨rfl, rfl⟩

theorem Links.watched_mirrored (links : Links σ) :
    links.Mirrored Trail.unwatched links.watched where
  client := links.isSome_watched
  send := Act.Unseen.send links
  hand := links.hand_unseen
  write _ _ := ⟨rfl, rfl⟩

def Recording.Unseen (op : Recording σ α) (op' : Recording (Watched σ) α) : Prop :=
  ∀ recorder, Act.Unseen (op.run recorder) (op'.run recorder)

namespace Recording.Unseen

variable {op : Recording σ α} {op' : Recording (Watched σ) α}

theorem answer (a : α) : Unseen (σ := σ) (Pure.pure a) (Pure.pure a) := fun _ => .answer _

theorem read : Unseen (σ := σ) get get := fun _ => .answer _

theorem change (f : Recorder → Recorder) :
    Unseen (σ := σ) (modify f) (modify f) := fun _ => .answer _

theorem outside {act : Act σ α} {act' : Act (Watched σ) α} (h : Act.Unseen act act') :
    Unseen (liftM act : Recording σ α) (liftM act' : Recording (Watched σ) α) :=
  fun recorder t => ⟨congrArg (·, recorder) (h t).1, (h t).2⟩

theorem seq {f : α → Recording σ β} {f' : α → Recording (Watched σ) β} (h : Unseen op op')
    (hf : ∀ a, Unseen (f a) (f' a)) : Unseen (op >>= f) (op' >>= f') :=
  fun recorder => (h recorder).seq fun p => hf p.1 p.2

theorem of_conducted {op : (σ : Type) → Links σ → Recording σ α}
    (h : ∀ client, Recording.Conducted client op) (links : Links σ) :
    Unseen (op _ links) (op _ links.watched) :=
  Conducted.mirrored h links.watched_mirrored

end Recording.Unseen

namespace Recorder

open Recording.Unseen

variable (links : Links σ)

theorem sink?_watched (recorder : Recorder) :
    sink? links.watched recorder = (sink? links recorder).map Watched.submit := by
  unfold sink?
  cases recorder.switches.reportsDisabled <;> rfl

theorem submit_unseen (submit : Submission → Act σ Bool) (s : Submission) :
    Act.Unseen (submit s) (Watched.submit submit s) :=
  fun _ => ⟨rfl, rfl⟩

theorem clearStash_unseen :
    Recording.Unseen (clearStash links) (clearStash links.watched) :=
  of_conducted (fun _ => clearStash_conducted) links

theorem reportTest_unseen (name : Option String) (force : Bool) :
    Recording.Unseen (reportTest links name force) (reportTest links.watched name force) :=
  of_conducted (fun _ => reportTest_conducted name force) links

theorem execute_unseen (site : Callsite) (c : Command) (skip : Bool) :
    Recording.Unseen (execute links site c skip) (execute links.watched site c skip) :=
  of_conducted (fun _ => execute_conducted site c skip) links

theorem takeScreenshot_unseen (camera : Option (Attempt σ Value)) :
    Act.Unseen (takeScreenshot camera) (takeScreenshot (Watched.camera camera)) := by
  cases camera with
  | none => exact .seq (.warn _) fun _ => .answer _
  | some take =>
    have hw : Act.Unseen take.result (Watched.within take.result) := .within
    refine .seq hw fun shot => ?_
    cases shot with
    | error fault => exact .seq (.error _) fun _ => .answer _
    | ok shot => exact .answer _

theorem describe_unseen (camera : Option (Attempt σ Value)) (request : StepRequest) :
    Recording.Unseen (Moment.describe links camera request)
      (Moment.describe links.watched (Watched.camera camera) request) := by
  refine seq read fun recorder => ?_
  rw [sink?_watched]
  cases sink? links recorder with
  | none => exact answer _
  | some submit =>
    refine seq (outside ?_) fun shot => ?_
    · unfold Moment.shot
      exact .ite (takeScreenshot_unseen camera) (.answer _)
    · exact seq (outside .freshId) fun guid => outside (submit_unseen submit _)

end Recorder

namespace Moment

variable (links : Links σ) (m : Moment (Watched σ))

theorem run_unseen {op : Recording σ α} {op' : Recording (Watched σ) α}
    (h : Recording.Unseen op op') :
    (m.run op').1 = (m.unwatched.run op).1 ∧ (m.run op').2.unwatched = (m.unwatched.run op).2 :=
  run_mirrored m (h m.recorder)

theorem unwatched_observed (name : Option String) (force : Bool) :
    (m.observed links.watched name force).unwatched = m.unwatched.observed links name force := by
  have hs : m.unwatched.recorder = m.recorder := rfl
  rw [observed, observed, hs]
  cases m.recorder.switches.testsDisabled with
  | true => rfl
  | false => exact (run_unseen m (Recorder.reportTest_unseen links name force)).2

theorem unwatched_performed (call : Call σ) :
    (m.performed links.watched call.watched).unwatched = m.unwatched.performed links call := by
  cases call with
  | execute site c skip => exact (run_unseen m (Recorder.execute_unseen links site c skip)).2
  | clearStash => exact (run_unseen m (Recorder.clearStash_unseen links)).2
  | step camera site request =>
    have hs : m.unwatched.recorder = m.recorder := rfl
    simp only [performed, Call.watched, Call.perform, run_discard, run_step, hs]
    cases m.recorder.switches.reportsDisabled with
    | true => rfl
    | false =>
      have ho := unwatched_observed links m (Naming.test site) false
      simp only [Bool.false_eq_true, if_false]
      rw [← ho]
      exact (run_unseen _ (Recorder.describe_unseen links camera request)).2

theorem turn_watched (call : Call σ) :
    call.watched.turn links.watched m = call.turn links m.unwatched := by
  cases call with
  | execute site c skip =>
    exact congrArg (Turn.executed site c skip _ ·.isOk)
      (run_unseen m (Recorder.execute_unseen links site c skip)).1
  | _ => rfl

/-- A watch sees the history that there is without it, and leaves the same behind. -/
theorem unwatched_play (calls : List (Call σ)) :
    (m.play links.watched (calls.map .watched)).unwatched = m.unwatched.play links calls ∧
      m.turns links.watched (calls.map .watched) = m.unwatched.turns links calls := by
  induction calls generalizing m with
  | nil => exact ⟨rfl, rfl⟩
  | cons call rest ih =>
    obtain ⟨hp, ht⟩ := ih (m.performed links.watched call.watched)
    rw [unwatched_performed] at hp ht
    refine ⟨hp, ?_⟩
    rw [List.map_cons, turns, turns, turn_watched, ht]

section Watch

variable (m : Moment σ) (calls : List (Call σ))

def watch : Moment (Watched σ) := m.watched.play links.watched (calls.map .watched)

def history : List (Note Numbered) :=
  Turn.history m.recorder.switches 0 (m.turns links calls)

/-- The book that a recorder with nothing stashed begins with. -/
def book : Book Numbered := { test := m.recorder.currentTest }

theorem takesCommands_watched (hc : links.submit.isSome = true)
    (hr : m.recorder.switches.reportsDisabled = false)
    (hd : m.recorder.switches.commandsDisabled = false) :
    (Recorder.terms links.watched m.watched.recorder).takesCommands = true := by
  simp [Terms.takesCommands, Terms.takesReports, Recorder.terms, hr, hd, hc, Links.watched, watched]

theorem unwatched_watch : (m.watch links calls).unwatched = m.play links calls :=
  (unwatched_play links m.watched calls).1

theorem watch_append (more : List (Call σ)) :
    m.watch links (calls ++ more) =
      (m.watch links calls).play links.watched (more.map .watched) := by
  rw [watch, List.map_append, play_append]
  rfl

/-- A recorder that begins with nothing stashed does what is noted. -/
theorem follows_watch (h : m.recorder.stash = []) :
    Follows links m.book (m.history links calls) m.watched (m.watch links calls) := by
  have hd : m.book.Describes m.watched.recorder := ⟨congrArg Stash.entries h, rfl⟩
  have hf := Follows.play links hd 0 calls
  rwa [(unwatched_play links m.watched calls).2] at hf

theorem history_append (more : List (Call σ)) :
    m.history links (calls ++ more) = m.history links calls ++
      Turn.history m.recorder.switches calls.length ((m.play links calls).turns links more) := by
  have hl : (m.turns links calls).length = calls.length := length_turns links m calls
  rw [history, turns_append, Turn.history_append, hl, Nat.zero_add]
  rfl

theorem follows_append (h : m.recorder.stash = []) (more : List (Call σ)) :
    Follows links (m.book.after (m.history links calls))
      (Turn.history m.recorder.switches calls.length ((m.play links calls).turns links more))
      (m.watch links calls) (m.watch links (calls ++ more)) := by
  have hw := follows_watch links m calls h
  have hs : (m.watch links calls).recorder.switches = m.recorder.switches :=
    congrArg Terms.switches hw.terms
  have hf := Follows.play links hw.describes calls.length more
  rwa [(unwatched_play links (m.watch links calls) more).2, unwatched_watch, hs,
    ← watch_append] at hf

end Watch

end Moment

end AgentReporting
