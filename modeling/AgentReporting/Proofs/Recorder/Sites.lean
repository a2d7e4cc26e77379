import AgentReporting.Command
import AgentReporting.Naming

/-! # Call sites in waits and tests

A call site inside a test case names the test by the method of the case, however many
waits are between. Waits are frames of a package that never names a test.
-/

namespace AgentReporting

theorem Command.exists_structuralKey {c : Command} (h : c.keyText?.isSome = true) :
    ∃ key, c.structuralKey = .ok key := by
  obtain ⟨text, ht⟩ := Option.isSome_iff_exists.mp h
  exact ⟨Digest.sha1 text, by rw [structuralKey, ht]⟩

namespace Frame

def wait : Frame := ⟨"selenium.webdriver.support.wait", "until", "wait.py", none⟩

def inTest (name : String) : Frame :=
  ⟨"suite", name, "suite.py", some (.testCase ⟨"Suite", "suite", some name, none⟩)⟩

theorem isInternal_wait : wait.isInternal = true := by
  have h : "selenium.webdriver.support.wait".startsWith "selenium." = true :=
    String.startsWith_string_iff.mpr (by decide)
  simp [isInternal, internalPackages, wait, h]

theorem isInternal_inTest (name : String) : (inTest name).isInternal = false := by
  have ht : "suite".startsWith "tpagent." = false :=
    String.startsWith_string_eq_false_iff.mpr (by decide)
  have hs : "suite".startsWith "selenium." = false :=
    String.startsWith_string_eq_false_iff.mpr (by decide)
  simp [isInternal, internalPackages, inTest, ht, hs]

end Frame

def Callsite.within (frames : List Frame) : Callsite :=
  { frames, directory := .ofString "/cwd/suite" }

namespace Naming

theorem test_of_case {site : Callsite} {found : TestCase} (ha : announcement? site = none)
    (hr : site.frames.any (·.module.startsWith runnerModule) = false)
    (hc : testCase? site = some found) : test site = found.method := by
  have hm : site.frames.any (·.testCase?.isSome) = true := by
    obtain ⟨frame, hf, hs⟩ := List.exists_of_findSome?_eq_some hc
    exact List.any_eq_true.mpr ⟨frame, List.filter_sublist.subset hf, by rw [hs]; rfl⟩
  rw [test, strategy]
  simp only [ha, hr, hm, Option.isSome_none, Bool.or_false, Bool.false_eq_true, if_false, if_true]
  rw [testBy, caseTest, hc]
  rfl

theorem test_inTest (name : String) {waits : List Frame} (h : ∀ frame ∈ waits, frame = .wait) :
    test (.within (waits ++ [.inTest name])) = some name := by
  have hw : Frame.wait.module.startsWith runnerModule = false :=
    String.startsWith_string_eq_false_iff.mpr (by decide)
  have ht : "suite".startsWith runnerModule = false :=
    String.startsWith_string_eq_false_iff.mpr (by decide)
  have hr : (Callsite.within (waits ++ [.inTest name])).frames.any
      (·.module.startsWith runnerModule) = false := by
    refine List.any_eq_false.mpr fun frame hf => ?_
    rcases List.mem_append.mp hf with hf | hf
    · rw [h frame hf, hw]
      decide
    · rw [List.mem_singleton.mp hf, Frame.inTest, ht]
      decide
  have he : waits.filter (fun frame => !frame.isInternal) = [] := by
    refine List.filter_eq_nil_iff.mpr fun frame hf => ?_
    rw [h frame hf, Frame.isInternal_wait]
    decide
  have hc : testCase? (.within (waits ++ [.inTest name])) =
      some ⟨"Suite", "suite", some name, none⟩ := by
    rw [testCase?, Callsite.named, Callsite.within, List.filter_append, he,
      List.filter_cons, Frame.isInternal_inTest]
    rfl
  exact test_of_case rfl hr hc

end Naming

end AgentReporting
