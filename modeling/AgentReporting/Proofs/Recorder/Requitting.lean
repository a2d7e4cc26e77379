import AgentReporting.Proofs.Recorder.Boundaries
import AgentReporting.Proofs.Recorder.Periods

/-! # Quitting again

A test that is closed where its name is still found goes on under that name. So quitting
again reports it again; nothing more is reported only where neither call site names a test,
or where the server fails.
-/

namespace AgentReporting

variable {σ : Type}

namespace TestPeriod

theorem left_of_forced (name : String) (current : Option String) :
    (observe true (some name) current).1 = some name := by
  simp [observe]

/-- Forced twice, the end of a test comes again unless no name is found the second time, and
none or an empty one the first time. -/
theorem ended_again_eq_none_iff (first again current : Option String) :
    (observe true again (observe true first current).1).2 = none ↔
      again = none ∧ isNamed first = false := by
  cases again with
  | some name => cases (observe true first current).1 <;> simp [observe]
  | none =>
    cases first with
    | some name =>
      rw [left_of_forced, ended_of_forced]
      simp [isNamed]
    | none =>
      cases current with
      | none => simp [observe, isNamed]
      | some test => cases h : test.isEmpty <;> simp [observe, isNamed, h]

theorem ended_again_of_named {first : Option String} {test : String} (h : first = some test)
    (again current : Option String) :
    let ended := (observe true again (observe true first current).1).2
    ended = none ∨ ended = some test := by
  subst h
  intro ended
  have he : ended = if again.isNone && test.isEmpty then none else some test := by
    rw [← ended_of_forced, ← left_of_forced test current]
  rw [he]
  split
  · exact .inl rfl
  · exact .inr rfl

end TestPeriod

namespace Call

/-- What is called before a session is quit: a driver reports what is stashed. -/
def ahead (byDriver : Bool) : List (Call σ) := if byDriver then [.clearStash] else []

/-- The calls by which a driver quits its session, or a recorder does without a driver. -/
def quits (byDriver : Bool) (site : Callsite) (c : Command) : List (Call σ) :=
  ahead byDriver ++ [.execute site c false]

end Call

namespace Moment

open Recorder TestPeriod

variable (links : Links σ) (m : Moment σ)

theorem recorder_reportTest (name : Option String) (force : Bool) :
    (m.run (reportTest links name force)).2.recorder =
      { m.recorder with currentTest := (observe force name m.recorder.currentTest).1 } := by
  unfold reportTest
  rw [run_bind, run_get]
  simp only [run_bind, run_set]
  cases (observe force name m.recorder.currentTest).2 with
  | none => rfl
  | some test =>
    cases h : sink? links m.recorder with
    | none => rfl
    | some submit => rfl

/-- A quit that was carried out is nothing but the forced end of a test. -/
theorem performed_quit {site : Callsite} {c : Command} {response : Response} {t : Trail σ}
    (hs : (links.send c).result.run m.trail = (.ok response, t)) (hq : c.isQuit = true) :
    m.performed links (.execute site c false) =
      observed links { m with trail := t } (Naming.test site) true := by
  simp only [performed, Call.perform, run_discard, run_execute, hs, Bool.false_eq_true, if_false,
    run_report, run_file, hq, if_true]

theorem recorder_of_quit (ht : m.recorder.switches.testsDisabled = false) (site : Callsite)
    {c : Command} (hq : c.isQuit = true) {response : Response}
    (ha : ((links.send c).result.run m.trail).1 = .ok response) :
    (m.performed links (.execute site c false)).recorder = { m.recorder with
      currentTest := (observe true (Naming.test site) m.recorder.currentTest).1 } := by
  have hs : (links.send c).result.run m.trail = (.ok response, _) := Prod.ext ha rfl
  rw [performed_quit links m hs hq, observed, if_neg (by simp [ht])]
  exact recorder_reportTest links _ (Naming.test site) true

theorem cleared_of_stash_eq_nil (h : m.recorder.stash = []) : m.cleared links = m := by
  obtain ⟨recorder, trail⟩ := m
  obtain ⟨capabilities, switches, stash, currentTest⟩ := recorder
  subst h
  rfl

theorem recorder_ahead (hc : links.submit.isSome = true)
    (hs : m.recorder.switches.allReported = true) (byDriver : Bool) :
    (m.play links (Call.ahead byDriver)).recorder =
      { m.recorder with stash := if byDriver then [] else m.recorder.stash } := by
  cases byDriver with
  | false => rfl
  | true => exact (flush_reports links m hc hs).2

theorem play_quits (byDriver : Bool) (site : Callsite) (c : Command) :
    m.play links (Call.quits byDriver site c) =
      (m.play links (Call.ahead byDriver)).performed links (.execute site c false) :=
  play_append links m (Call.ahead byDriver) [.execute site c false]

theorem watch_quits {byDriver : Bool} (h : byDriver = true → m.recorder.stash = [])
    (site : Callsite) (c : Command) :
    m.watch links (Call.quits byDriver site c) = m.watch links [.execute site c false] := by
  cases byDriver with
  | false => rfl
  | true =>
    exact congrArg (performed links.watched · (.execute site c false))
      (cleared_of_stash_eq_nil links.watched m.watched (h rfl))

/-- After a quit that was answered, quitting again has no command reported, and at most one
test: the one that the first call site names, where it names one. Nothing is reported if and
only if the server fails, or the second call site names no test and neither does the first. -/
theorem reported_by_second_quit (hc : links.submit.isSome = true)
    (hs : m.recorder.switches.allReported = true) (byDriver : Bool) (site again : Callsite)
    {c d : Command} (hq : c.isQuit = true) (hd : d.isQuit = true) {response : Response}
    (ha : ((links.send c).result.run (m.play links (Call.ahead byDriver)).trail).1 =
      .ok response) :
    let first := m.play links (Call.quits byDriver site c)
    ∃ answer, ∃ ended : Option String,
      (first.watch links (Call.quits byDriver again d)).events =
        .sent d answer :: ended.toList.map ending ∧
      (ended = none ↔ (∃ fault, answer = .error fault) ∨
        Naming.test again = none ∧ isNamed (Naming.test site) = false) ∧
      ∀ test, Naming.test site = some test → ended = none ∨ ended = some test := by
  intro first
  have hahead := recorder_ahead links m hc hs byDriver
  have hfirst : first.recorder = { m.recorder with
      stash := if byDriver then [] else m.recorder.stash
      currentTest := (observe true (Naming.test site) m.recorder.currentTest).1 } := by
    have ht := (terms_taken links m hc hs).2.2
    have hr := recorder_of_quit links (m.play links (Call.ahead byDriver))
      (by rw [hahead]; exact ht) site hq ha
    rw [hahead] at hr
    exact (congrArg (·.recorder) (play_quits links m byDriver site c)).trans hr
  have hstash : byDriver = true → first.recorder.stash = [] := by
    intro hb
    rw [hfirst, hb]
    rfl
  have he := (quit_closes links first hc (by rw [hfirst]; exact hs) again hd).1
  rw [← watch_quits links first hstash] at he
  generalize ((links.send d).result.run first.trail).1 = answer at he
  cases answer with
  | error fault => exact ⟨_, none, he, by simp, fun _ _ => .inl rfl⟩
  | ok answer =>
    have hended := ended_again_eq_none_iff (Naming.test site) (Naming.test again)
      m.recorder.currentTest
    rw [closing, hfirst] at he
    exact ⟨_, _, he, by simp [hended], fun _ ht => ended_again_of_named ht _ _⟩

def quitCommand : Command := { sessionId := .str "session-1", name := Command.quit }

theorem nothing_reported_outside_tests :
    let links := ScriptedLinks.links true
    let m : Moment ScriptedLinks := ⟨{}, { outside := {} }⟩
    let quits : List (Call ScriptedLinks) := Call.quits true (.within []) quitCommand
    ∃ answer, ((m.play links quits).watch links quits).events = [.sent quitCommand answer] := by
  intro links m quits
  have hn : Naming.test (.within []) = none := rfl
  have hq : quitCommand.isQuit = true := rfl
  obtain ⟨answer, ended, he, hended, -⟩ := reported_by_second_quit links m rfl rfl true
    (.within []) (.within []) hq hq rfl
  obtain rfl : ended = none := hended.mpr (.inr ⟨hn, by rw [hn]; rfl⟩)
  exact ⟨answer, he⟩

/-- In a test a driver that quits twice has the test reported twice. -/
theorem test_reported_by_each_quit :
    let links := ScriptedLinks.links true
    let m : Moment ScriptedLinks := ⟨{}, { outside := {} }⟩
    let site := Callsite.within [.inTest "test_a"]
    let quits : List (Call ScriptedLinks) := Call.quits true site quitCommand
    let used := m.play links [.execute site nextCommand false]
    (used.watch links quits).events.filterMap Event.submission? = [.test { name := "test_a" }] ∧
      ((used.play links quits).watch links quits).events.filterMap Event.submission? =
        [.test { name := "test_a" }] := by
  intro links m site quits used
  have hn : Naming.test site = some "test_a" := @Naming.test_inTest "test_a" [] (by simp)
  have hused : used = ⟨{ currentTest := some "test_a" }, { outside := {
      sent := [nextCommand], submitted := [.command nextCommand .null true .null] } }⟩ := by
    change m.performed links _ = _
    rw [performed_outside_wait links m rfl rfl rfl, hn]
    rfl
  have hfirst : used.play links quits = ⟨{ currentTest := some "test_a" }, { outside := {
      sent := [nextCommand, quitCommand]
      submitted := [.command nextCommand .null true .null, .test { name := "test_a" }] } }⟩ := by
    change (used.cleared links).performed links _ = _
    rw [hused, cleared_of_stash_eq_nil links _ rfl, performed_quit links _ rfl rfl, hn]
    rfl
  rw [hfirst, hused]
  rw [watch_quits links _ (fun _ => rfl), (quit_closes links _ rfl rfl site rfl).1]
  rw [watch_quits links _ (fun _ => rfl), (quit_closes links _ rfl rfl site rfl).1]
  simp only [closing, hn]
  exact ⟨rfl, rfl⟩

end Moment

end AgentReporting
