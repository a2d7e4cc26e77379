import AgentReporting.Proofs.Recorder.Sites
import AgentReporting.Proofs.Running
import AgentReporting.Proofs.Text.Cuts

/-! # Names that are given

A session gets the names of its test, or else those of the entry script. Names are missing if
the class of a test case has neither a package nor a source, which is a fault, and if neither
the test nor a script that lies in a directory with a name gives them.
-/

namespace AgentReporting

variable {σ : Type}

theorem FilePath.stem_eq_empty_iff (path : FilePath) : path.stem = "" ↔ path.name = "" := by
  unfold stem
  split
  · rfl
  · rename_i before hb
    split
    · rfl
    · rename_i hc
      rw [Bool.or_eq_true, not_or] at hc
      refine iff_of_false (by simpa using hc.1) fun hn => ?_
      rw [hn] at hb
      cases hb

theorem ReportSettings.isComplete_iff {project job : String} :
    ReportSettings.isComplete { project := some project, job := some job } = true ↔
      project ≠ "" ∧ job ≠ "" := by
  simp [isComplete, present]

namespace Naming

/-! ## Names of tests -/

/-- The file of the announced test, or else of the innermost function that is called as one. -/
def testFile? (site : Callsite) : Option String :=
  match nodeId? site with
  | some node => some (String.ofList (nodeFile node))
  | none => (testFrame? site).map (·.file)

theorem announcedSettings_eq (site : Callsite) :
    announcedSettings site = (testFile? site).map (fileSettings site) := by
  unfold announcedSettings testFile?
  cases nodeId? site with
  | some node => rfl
  | none => rw [Option.map_map]; rfl

theorem fileSettings_isComplete_iff (site : Callsite) (file : String) :
    (fileSettings site file).isComplete = true ↔ (FilePath.ofString file).name ≠ "" ∧
      ((FilePath.ofString file).parent.name ≠ "" ∨ site.directory.name ≠ "") := by
  rw [fileSettings, ReportSettings.isComplete_iff, ne_eq (FilePath.stem _),
    FilePath.stem_eq_empty_iff, and_comm]
  refine and_congr_right fun _ => ?_
  split <;> simp_all

/-- The class of the test case has neither a package nor a source. -/
def Unsourced (site : Callsite) : Prop :=
  strategy site = .testCase ∧
    ∃ found, testCase? site = some found ∧ '.' ∉ found.module.toList ∧ found.source = none

theorem caseProject_fault_iff (found : TestCase) : (∃ fault, caseProject found = .error fault) ↔
    '.' ∉ found.module.toList ∧ found.source = none := by
  rw [← List.singleton_infix_iff, ← Text.beforeLast?_eq_none_iff (List.cons_ne_nil '.' []),
    caseProject]
  cases Text.beforeLast? ['.'] found.module.toList with
  | some package => simp
  | none => cases found.source <;> simp

/-- The strategy that fits finds a test which gives both names. -/
inductive NamedByTest (site : Callsite) : Prop where
  | announced {file : String} (hs : strategy site = .announced) (hf : testFile? site = some file)
      (hn : (FilePath.ofString file).name ≠ "")
      (hp : (FilePath.ofString file).parent.name ≠ "" ∨ site.directory.name ≠ "")
  | testCase {found : TestCase} {project : String} (hs : strategy site = .testCase)
      (hf : testCase? site = some found) (hp : caseProject found = .ok project)
      (hn : project ≠ "") (hc : found.className ≠ "")

/-! ## Names of scripts -/

/-- The entry script, if there is one and it is a file, can be resolved and lies in a directory
with a name. -/
def NamedByScript (site : Callsite) : Prop :=
  ∀ entry, entryFrame? site = some entry → entry.file.startsWith "<" = false →
    let path := FilePath.resolve site.directory (FilePath.ofString entry.file)
    '\x00' ∉ entry.file.toList ∧ path.name ≠ "" ∧ path.parent.name ≠ ""

end Naming

namespace Attempt

def GivesNames (attempt : Attempt σ ReportSettings) (trail : Trail σ) : Prop :=
  ∃ found, (attempt.result.run trail).1 = .ok found ∧ found.isComplete = true

variable {trail : Trail σ}

theorem givesNames_pure_iff {found : ReportSettings} :
    GivesNames (pure found) trail ↔ found.isComplete = true := by
  simp [GivesNames]

theorem not_givesNames_throw {fault : Fault} : ¬ GivesNames (throw fault) trail :=
  fun ⟨_, h, _⟩ => nomatch h

theorem givesNames_bind_of_ok {α : Type} {attempt : Attempt σ α} {a : α} {after : Trail σ}
    (h : attempt.result.run trail = (.ok a, after)) (next : α → Attempt σ ReportSettings) :
    GivesNames (attempt >>= next) trail ↔ GivesNames (next a) after := by
  rw [GivesNames, GivesNames, run_bind_of_ok (congrArg Prod.fst h), h]

end Attempt

namespace Naming

open Attempt

variable (site : Callsite) (trail : Trail σ)

theorem useUnnamed_givesNames : (Attempt.lift useUnnamed).GivesNames trail := ⟨unnamed, rfl, rfl⟩

theorem scriptSettings_givesNames_iff :
    (scriptSettings site).GivesNames trail ↔ NamedByScript site := by
  unfold scriptSettings NamedByScript
  cases entryFrame? site with
  | none => simpa using useUnnamed_givesNames trail
  | some entry =>
    simp only [Option.some.injEq, forall_eq']
    cases hf : entry.file.startsWith "<" with
    | true => simpa using useUnnamed_givesNames trail
    | false =>
      simp only [Bool.false_eq_true, if_false, true_imp_iff]
      split
      · rename_i hz
        exact iff_of_false not_givesNames_throw fun h => h.1 (by simpa using hz)
      · rename_i hz
        have hn : '\x00' ∉ entry.file.toList := by simpa using hz
        rw [givesNames_pure_iff, ReportSettings.isComplete_iff, ne_eq (FilePath.stem _),
          FilePath.stem_eq_empty_iff, and_iff_right hn]
        exact and_comm

/-- What a strategy found counts if it is complete; otherwise the script is asked. -/
theorem orScript_givesNames_iff (found? : Option ReportSettings) :
    GivesNames (match found? with
      | some found => if found.isComplete then pure found else scriptSettings site
      | none => scriptSettings site) trail ↔
        (∃ found, found? = some found ∧ found.isComplete = true) ∨ NamedByScript site := by
  cases found? with
  | none => simp [scriptSettings_givesNames_iff]
  | some found =>
    cases hc : found.isComplete with
    | true => simp [hc, givesNames_pure_iff]
    | false => simp [hc, scriptSettings_givesNames_iff]

theorem settings_of_ok {found? : Option ReportSettings} {trail after : Trail σ}
    (h : (settingsBy (strategy site) site).result.run trail = (.ok found?, after)) :
    (settings site).GivesNames trail ↔
      (∃ found, found? = some found ∧ found.isComplete = true) ∨ NamedByScript site := by
  rw [settings, givesNames_bind_of_ok h]
  exact orScript_givesNames_iff site after found?

theorem settings_of_fault {fault : Fault} {trail after : Trail σ}
    (h : (settingsBy (strategy site) site).result.run trail = (.error fault, after)) :
    ¬ (settings site).GivesNames trail := by
  rw [GivesNames, settings, run_bind, h]
  rintro ⟨_, he, _⟩
  cases he

variable {site}

theorem namedByTest_of_announced (hs : strategy site = .announced) :
    (∃ found, announcedSettings site = some found ∧ found.isComplete = true) ↔
      NamedByTest site := by
  rw [announcedSettings_eq]
  constructor
  · rintro ⟨_, hf, hc⟩
    obtain ⟨file, hfile, rfl⟩ := Option.map_eq_some_iff.mp hf
    obtain ⟨hn, hp⟩ := (fileSettings_isComplete_iff site file).mp hc
    exact .announced hs hfile hn hp
  · intro h
    cases h with
    | @announced file _ hfile hn hp =>
      exact ⟨_, by rw [hfile]; rfl, (fileSettings_isComplete_iff site file).mpr ⟨hn, hp⟩⟩
    | testCase hc => exact nomatch hs.symm.trans hc

theorem namedByTest_of_testCase (hs : strategy site = .testCase) :
    (∃ found, caseSettings site = .ok (some found) ∧ found.isComplete = true) ↔
      NamedByTest site := by
  unfold caseSettings
  constructor
  · rintro ⟨settings, hf, hc⟩
    cases ht : testCase? site with
    | none => simp [ht] at hf
    | some found =>
      cases hp : caseProject found with
      | error fault => simp [ht, hp, Except.map] at hf
      | ok project =>
        simp only [ht, hp, Except.map, Except.ok.injEq, Option.some.injEq] at hf
        obtain ⟨hn, hj⟩ := ReportSettings.isComplete_iff.mp (hf ▸ hc)
        exact .testCase hs ht hp hn hj
  · intro h
    cases h with
    | announced ha => exact nomatch hs.symm.trans ha
    | @testCase found project _ ht hp hn hj =>
      rw [ht]
      exact ⟨_, by simp only [hp]; rfl, ReportSettings.isComplete_iff.mpr ⟨hn, hj⟩⟩

theorem unsourced_iff_fault (hs : strategy site = .testCase) :
    Unsourced site ↔ ∃ fault, caseSettings site = .error fault := by
  unfold Unsourced caseSettings
  cases ht : testCase? site with
  | none => simp
  | some found =>
    simp only [Option.some.injEq, exists_eq_left', ← caseProject_fault_iff]
    cases caseProject found <;> simp [Except.map, hs]

theorem givesNames_of_announced (trail : Trail σ) (hs : strategy site = .announced) :
    (settings site).GivesNames trail ↔ NamedByTest site ∨ NamedByScript site := by
  have hrun : (settingsBy (strategy site) site).result.run trail =
      (.ok (announcedSettings site), trail) := by rw [hs]; rfl
  rw [settings_of_ok site hrun, namedByTest_of_announced hs]

theorem givesNames_of_testCase (trail : Trail σ) (hs : strategy site = .testCase) :
    (settings site).GivesNames trail ↔
      NamedByTest site ∨ ¬ Unsourced site ∧ NamedByScript site := by
  have hrun : (settingsBy (strategy site) site).result.run trail =
      (caseSettings site, trail) := by rw [hs]; rfl
  rw [← namedByTest_of_testCase hs, unsourced_iff_fault hs]
  cases hc : caseSettings site with
  | error fault =>
    rw [hc] at hrun
    exact iff_of_false (settings_of_fault site hrun) (by simp)
  | ok found? =>
    rw [hc] at hrun
    rw [settings_of_ok site hrun]
    simp

theorem givesNames_of_script (trail : Trail σ) (hs : strategy site = .script) :
    (settings site).GivesNames trail ↔ NamedByScript site := by
  have hby : (settingsBy (σ := σ) (strategy site) site).result.run trail =
      (scriptSettings site >>= fun found => pure (some found)).result.run trail := by rw [hs]; rfl
  have hscript := scriptSettings_givesNames_iff site trail
  rw [run_bind] at hby
  -- incomplete names make it ask the script once more, which answers the same
  cases hrun : (scriptSettings site).result.run trail with
  | mk answer after =>
    rw [GivesNames, hrun] at hscript
    rw [hrun] at hby
    cases answer with
    | error fault =>
      rw [← hscript]
      exact iff_of_false (settings_of_fault site hby) (by simp)
    | ok found =>
      rw [settings_of_ok site hby]
      refine or_iff_right_of_imp ?_
      rintro ⟨_, ⟨⟩, hc⟩
      exact hscript.mp ⟨found, rfl, hc⟩

/-- Names come from the test, or else from the script, unless the test is a fault. -/
theorem settings_givesNames_iff (site : Callsite) (trail : Trail σ) :
    (settings site).GivesNames trail ↔
      NamedByTest site ∨ ¬ Unsourced site ∧ NamedByScript site := by
  cases hs : strategy site with
  | announced =>
    have hu : ¬ Unsourced site := fun h => nomatch hs.symm.trans h.1
    rw [givesNames_of_announced trail hs, and_iff_right hu]
  | testCase => exact givesNames_of_testCase trail hs
  | script =>
    have hu : ¬ Unsourced site := fun h => nomatch hs.symm.trans h.1
    have ht : ¬ NamedByTest site := by
      rintro (⟨hc, -⟩ | ⟨hc, -⟩)
      · exact nomatch hs.symm.trans hc
      · exact nomatch hs.symm.trans hc
    rw [givesNames_of_script trail hs, or_iff_right ht, and_iff_right hu]

def rootScript : Frame := ⟨"__main__", "<module>", "/run.py", none⟩

/-- A class without a source is a fault, and a script in the root directory names no project. -/
theorem names_missing :
    (∃ fault, ((settings (.within [.inTest "test_a"])).result.run { outside := () }).1 =
      .error fault) ∧
    ((settings (.within [rootScript])).result.run { outside := () }).1 =
      .ok { project := some "", job := some "run" } := by
  constructor
  · refine ⟨.mismatch .type "<class 'suite.Suite'> is a built-in class", ?_⟩
    rfl
  · exact eq_ok_of_toOption (by decide +kernel)

end Naming

end AgentReporting
