import AgentReporting.Proofs.Recorder.Quitting
import AgentReporting.Scripted.Links
import Mathlib.Data.List.Destutter
import Mathlib.Data.List.ReduceOption

/-! # Boundaries between tests

The name of the running test is observed time and again. A test is closed when another name
is observed, so the tests are the names that were found, with equal neighbours collapsed.
The last of them runs on until its end is forced.
-/

namespace AgentReporting

variable {σ α : Type}

namespace TestPeriod

/-- The tests that observed names tell of. -/
def tests (names : List (Option String)) : List String :=
  names.reduceOption.destutter (· ≠ ·)

theorem observe_none (current : Option String) : observe false none current = (current, none) := by
  cases current <;> rfl

theorem observe_first (name : String) : observe false (some name) none = (some name, none) := by
  simp [observe]

theorem observe_same (test : String) :
    observe false (some test) (some test) = (some test, none) := by
  simp [observe]

theorem observe_other {test name : String} (h : test ≠ name) :
    observe false (some name) (some test) = (some name, some test) := by
  simp [observe, h.symm]

theorem observe_forced_same {test : String} (ht : test ≠ "") {name : Option String}
    (hn : name = none ∨ name = some test) : (observe true name (some test)).2 = some test := by
  rcases hn with rfl | rfl
  · simp [observe, isNamed, ht]
  · simp [observe]

theorem mem_of_getLast?_tests {names : List (Option String)} {test : String}
    (h : (tests names).getLast? = some test) : some test ∈ names :=
  List.reduceOption_mem_iff.mp ((List.destutter_sublist _ _).subset (List.mem_of_getLast? h))

end TestPeriod

open TestPeriod

/-- Of the tests that names tell of after a running one, all are closed but the last. -/
theorem Book.filings_observed (book : Book α) (names : List (Option String)) :
    let tests := (book.test.toList ++ names.reduceOption).destutter (· ≠ ·)
    book.filings (names.map (.observed false)) = tests.dropLast.map .test ∧
      (book.after (names.map (.observed false))).test = tests.getLast? := by
  induction names generalizing book with
  | nil => cases ht : book.test <;> simp [filings, after, ht]
  | cons name rest ih =>
    obtain ⟨stash, running⟩ := book
    simp only [List.map_cons, filings, filed, after, List.foldl_cons, next]
    -- the next name is compared with the running test, as the names are with each other
    rcases name with _ | name
    · rw [observe_none]
      exact ih ⟨stash, running⟩
    have hnext := ih ⟨stash, some name⟩
    simp only [Option.toList_some, List.singleton_append, List.destutter_cons'] at hnext
    rcases running with _ | test
    · rw [observe_first]
      exact hnext
    simp only [Option.toList_some, List.reduceOption_cons_of_some, List.singleton_append,
      List.destutter_cons', List.destutter'_cons]
    by_cases hn : test = name
    · subst hn
      rw [observe_same, if_neg (not_not.mpr rfl)]
      exact hnext
    · have hne := (rest.reduceOption).destutter'_ne_nil (· ≠ ·) (a := name)
      rw [observe_other hn, if_pos hn, List.dropLast_cons_of_ne_nil hne,
        List.getLast?_cons_of_ne_nil hne]
      exact ⟨congrArg (List.cons (Filing.test test)) hnext.1, hnext.2⟩

theorem Book.filings_observed_of_fresh {book : Book α} (h : book.test = none)
    (names : List (Option String)) :
    book.filings (names.map (.observed false)) = (tests names).dropLast.map .test ∧
      (book.after (names.map (.observed false))).test = (tests names).getLast? := by
  have hf := book.filings_observed names
  simp only [h, Option.toList_none, List.nil_append] at hf
  exact hf

namespace Moment

open Recorder

variable (links : Links σ)

def observing (m : Moment σ) (names : List (Option String)) : Moment σ :=
  names.foldl (fun m name => (m.run (reportTest links name false)).2) m

theorem unwatched_observing (m : Moment (Watched σ)) (names : List (Option String)) :
    (m.observing links.watched names).unwatched = m.unwatched.observing links names := by
  induction names generalizing m with
  | nil => rfl
  | cons name rest ih =>
    have hm := (run_unseen m (reportTest_unseen links name false)).2
    exact (ih _).trans (congrArg (observing links · rest) hm)

theorem Follows.observing {m : Moment (Watched σ)} {book : Book Numbered}
    (h : book.Describes m.recorder) (names : List (Option String)) :
    Follows links book (names.map (.observed false)) m (m.observing links.watched names) := by
  induction names generalizing book m with
  | nil => exact refl h
  | cons name rest ih =>
    have hn := observed links h name false
    exact hn.trans (ih hn.describes)

def ending (test : String) : Event := .handed (.test { name := test, passed := true })

/-- While names are observed, a test is reported for each change of name; the one that runs at
the end is reported when its end is forced where no other name is observed. -/
theorem tests_reported_at_changes (hc : links.submit.isSome = true) (m : Moment σ)
    (hr : m.recorder.switches.reportsDisabled = false) (hf : m.recorder.currentTest = none)
    {names : List (Option String)} (hn : some "" ∉ names) :
    let before := m.watched.observing links.watched names
    before.events = (tests names).dropLast.map ending ∧
      (m.observing links names).recorder.currentTest = (tests names).getLast? ∧
      ∀ name, name = none ∨ name = (m.observing links names).recorder.currentTest →
        (before.run (reportTest links.watched name true)).2.events = (tests names).map ending := by
  intro before
  have ht : (terms links.watched m.watched.recorder).takesReports = true := by
    simp [Terms.takesReports, terms, Links.watched, watched, hc, hr]
  have hd := m.watched.recorder.book_describes
  obtain ⟨hdesc, hterms, events, he, hs⟩ := Follows.observing links hd names
  obtain ⟨hfiled, hlast⟩ := Book.filings_observed_of_fresh
    (show m.watched.recorder.book.test = none from hf) names
  have hbefore : before.events = (tests names).dropLast.map ending := by
    rw [hfiled] at hs
    rw [he, hs.tests ht, events_watched, List.nil_append]
    rfl
  have hcurrent : (m.observing links names).recorder.currentTest = (tests names).getLast? := by
    rw [← hlast, ← hdesc.test]
    exact congrArg (·.recorder.currentTest) (unwatched_observing links m.watched names).symm
  refine ⟨hbefore, hcurrent, fun name hname => ?_⟩
  obtain ⟨-, -, closed, he', hs'⟩ := Follows.observed links hdesc name true
  rw [hterms, Book.filings, Book.filings, List.append_nil, Book.filed, hlast] at hs'
  rw [he', hbefore, hs'.tests ht]
  rw [hcurrent] at hname
  cases hl : (tests names).getLast? with
  | none =>
    obtain rfl : name = none := by simpa [hl] using hname
    rw [List.getLast?_eq_none_iff.mp hl]
    rfl
  | some test =>
    have hnamed : test ≠ "" := fun h => hn (h ▸ mem_of_getLast?_tests hl)
    rw [observe_forced_same hnamed (hl ▸ hname)]
    change (tests names).dropLast.map ending ++ [test].map ending = _
    rw [← List.map_append, List.dropLast_append_getLast? _ hl]

/-- A name that comes back is the name of another test. -/
theorem tests_reported_at_each_return :
    let links := ScriptedLinks.links true
    let m : Moment ScriptedLinks := ⟨{}, { outside := {} }⟩
    let names := [none, some "a", some "a", none, some "b", none, some "a"]
    let before := m.watched.observing links.watched names
    tests names = ["a", "b", "a"] ∧ before.events = [ending "a", ending "b"] ∧
      (before.run (reportTest links.watched none true)).2.events =
        [ending "a", ending "b", ending "a"] := by
  intro links m names before
  have ht : tests names = ["a", "b", "a"] := by decide
  have hn : some "" ∉ names := by decide
  obtain ⟨hb, -, hforced⟩ := tests_reported_at_changes links rfl m rfl rfl hn
  rw [ht] at hb hforced
  exact ⟨ht, hb, hforced none (.inl rfl)⟩

end Moment

end AgentReporting
