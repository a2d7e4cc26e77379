import AgentReporting.Proofs.Recorder.Unseen

/-! # Quitting

Before a session is quit, what is stashed is reported. The running test is closed after the
automation server has answered; where the server fails, the test stays open.
-/

namespace AgentReporting

variable {σ : Type}

namespace TestPeriod

/-- Where a test is running it is closed, unless neither it nor the call site names one. -/
theorem ended_of_forced (name : Option String) (test : String) :
    (observe true name (some test)).2 =
      if name.isNone && test.isEmpty then none else some test := by
  cases name with
  | none => cases h : test.isEmpty <;> simp [observe, isNamed, h]
  | some name => simp [observe]

end TestPeriod

def Switches.allReported (s : Switches) : Bool :=
  !s.reportsDisabled && !s.commandsDisabled && !s.testsDisabled

namespace Terms

variable {terms : Terms} {events : List Event}

theorem Shown.sent_cons {c : Command} {answer : Except Fault Response}
    {fs : List (Filing Numbered)} (h : terms.Shown (.sent c answer :: fs) events) :
    ∃ rest, events = .sent c answer :: rest ∧ terms.Shown fs rest := by
  cases h with
  | cons hs hr =>
    cases hs with
    | sent => exact ⟨_, rfl, hr⟩
    | handed _ hh => cases hh
    | untaken hu => cases hu

theorem Shown.attempts {as : List Numbered} (ht : terms.takesCommands = true)
    (h : terms.Shown (as.map .attempt) events) :
    List.Forall₂ Numbered.ReportedAs as (events.filterMap Event.submission?) := by
  induction as generalizing events with
  | nil =>
    cases h
    exact .nil
  | cons a rest ih =>
    cases h with
    | @cons _ _ block events hs hr =>
      cases hs with
      | untaken hu => cases ht.symm.trans hu
      | @handed _ lookups s _ hh =>
        have hl : lookups.filterMap Event.submission? = [] := by
          refine List.filterMap_eq_nil_iff.mpr fun e he => ?_
          cases e with
          | sent c answer => rfl
          | handed s => exact absurd he hh.not_handed
        rw [List.filterMap_append, List.filterMap_append, hl, List.nil_append]
        cases hh with
        | attempt hl => exact .cons hl.reported (ih hr)

theorem Shown.tests {ended : List String} (ht : terms.takesReports = true)
    (h : terms.Shown (ended.map .test) events) :
    events = ended.map fun name => .handed (.test { name }) := by
  induction ended generalizing events with
  | nil =>
    cases h
    rfl
  | cons name rest ih =>
    cases h with
    | cons hs hr =>
      cases hs with
      | untaken hu => cases ht.symm.trans hu
      | handed _ hh =>
        cases hh
        rw [ih hr]
        rfl

end Terms

theorem Turn.notes_of_quit {switches : Switches} {c : Command} (ht : switches.testsDisabled = false)
    (hq : c.isQuit = true) (number : Nat) (site : Callsite) (answer : Except Fault Response)
    (made : Bool) : notes switches number (.executed site c false answer made) = .sent c answer ::
      match answer with
      | .error _ => []
      | .ok _ => [.observed true (Naming.test site)] := by
  cases answer with
  | error fault => rfl
  | ok response => simp [notes, observation, placement, ht, hq]

/-- The book of a recorder. The attempts in its stash have no numbers of their own. -/
def Recorder.book (recorder : Recorder) : Book Numbered :=
  { stash := recorder.stash.entries.map fun entry => (entry.1, ⟨0, entry.2⟩)
    test := recorder.currentTest }

theorem Recorder.book_describes (recorder : Recorder) : recorder.book.Describes recorder := by
  refine ⟨?_, rfl⟩
  rw [book, List.map_map]
  exact (List.map_id _).symm

def Recorder.closing (recorder : Recorder) (site : Callsite) : Except Fault Response → List Event
  | .error _ => []
  | .ok _ => (TestPeriod.observe true (Naming.test site) recorder.currentTest).2.toList.map
      fun name => .handed (.test { name })

theorem Recorder.closing_iff {recorder : Recorder} {test : String}
    (ht : recorder.currentTest = some test) (site : Callsite) (answer : Except Fault Response) :
    recorder.closing site answer = [.handed (.test { name := test })] ↔
      (∃ response, answer = .ok response) ∧ ¬(test = "" ∧ Naming.test site = none) := by
  cases answer with
  | error fault => simp [closing]
  | ok response =>
    rw [closing, ht, TestPeriod.ended_of_forced]
    by_cases hn : Naming.test site = none <;> by_cases he : test = "" <;> simp [hn, he]

namespace Moment

open Recorder

variable (links : Links σ) (m : Moment σ)

theorem terms_taken (hc : links.submit.isSome = true)
    (hs : m.recorder.switches.allReported = true) :
    (terms links.watched m.watched.recorder).takesCommands = true ∧
      (terms links.watched m.watched.recorder).takesReports = true ∧
      m.watched.recorder.switches.testsDisabled = false := by
  simp only [Switches.allReported, Bool.and_eq_true, Bool.not_eq_true'] at hs
  have hcommands := takesCommands_watched links m hc hs.1.1 hs.1.2
  exact ⟨hcommands, (Bool.and_eq_true_iff.mp hcommands).2, hs.2⟩

/-- What is stashed is reported attempt by attempt, and nothing else is. -/
theorem flush_reports (hc : links.submit.isSome = true)
    (hs : m.recorder.switches.allReported = true) :
    List.Forall₂ Numbered.ReportedAs (m.recorder.stash.attempts.map (Numbered.mk 0))
        ((m.watch links [.clearStash]).events.filterMap Event.submission?) ∧
      (m.cleared links).recorder = { m.recorder with stash := [] } := by
  obtain ⟨events, hf, he, hk⟩ :=
    Follows.cleared_shows links m.watched.recorder.book_describes
  have hflushed : m.watched.recorder.book.flushed =
      (m.recorder.stash.attempts.map (Numbered.mk 0)).map .attempt := by
    simp [Book.flushed, Recorder.book, Stash.attempts_eq, watched]
  rw [hflushed] at hf
  constructor
  · rw [watch, play, List.map_singleton, List.foldl_cons, List.foldl_nil]
    change List.Forall₂ _ _ (List.filterMap _ (m.watched.cleared links.watched).events)
    rw [he, events_watched, List.nil_append]
    exact hf.attempts (terms_taken links m hc hs).1
  · exact (congrArg (·.recorder) (run_unseen m.watched (clearStash_unseen links)).2).symm.trans hk

/-- Once the automation server has answered, the running test is closed. -/
theorem quit_closes (hc : links.submit.isSome = true)
    (hs : m.recorder.switches.allReported = true) (site : Callsite) {c : Command}
    (hq : c.isQuit = true) :
    let answer := ((links.send c).result.run m.trail).1
    (m.watch links [.execute site c false]).events =
        .sent c answer :: m.recorder.closing site answer ∧
      (m.performed links (.execute site c false)).recorder.stash = m.recorder.stash := by
  intro answer
  obtain ⟨-, hreports, ht⟩ := terms_taken links m hc hs
  obtain ⟨hb, -, events, he, hf⟩ :=
    Follows.executed links m.watched.recorder.book_describes 0 site c false
  change Book.Describes (Book.after _ (Turn.notes _ 0 (.executed site c false answer _))) _ at hb
  change Terms.Shown _ (Book.filings _ (Turn.notes _ 0 (.executed site c false answer _))) _ at hf
  rw [Turn.notes_of_quit ht hq] at hb hf
  rw [events_watched, List.nil_append] at he
  clear_value answer
  obtain ⟨closed, rfl, hclosed⟩ := hf.sent_cons
  have hw : (m.watch links [.execute site c false]).recorder =
      (m.performed links (.execute site c false)).recorder :=
    congrArg (·.recorder) (unwatched_watch links m [.execute site c false])
  constructor
  · refine he.trans (congrArg (Event.sent c answer :: ·) ?_)
    cases answer with
    | error fault =>
      cases hclosed
      rfl
    | ok response =>
      change Terms.Shown _ (_ ++ []) closed at hclosed
      rw [List.append_nil] at hclosed
      exact hclosed.tests hreports
  · rw [← hw]
    have hstash := m.watched.recorder.book_describes.stash.symm
    cases answer with
    | error fault => exact Stash.entries_injective (hb.stash.trans hstash)
    | ok response => exact Stash.entries_injective (hb.stash.trans hstash)

end Moment

end AgentReporting
