import AgentReporting.Proofs.Kit.Keeping
import AgentReporting.Proofs.Recorder.Sites

/-! # Frames that never name a test

The kit and the automation library call each other between a test and the place where its
name is asked for. However many of their frames are on the stack, and wherever they are,
the names are the same; so the cache and the client that it starts one call deeper agree.
-/

namespace AgentReporting

variable {σ τ : Type}

namespace Frame

def InPackage (frame : Frame) : Prop :=
  ∃ package ∈ internalPackages,
    frame.module = package ∨ ∃ name, frame.module = package ++ "." ++ name

theorem isInternal_iff (frame : Frame) : frame.isInternal = true ↔ frame.InPackage := by
  have hlies (package : String) : frame.module.startsWith (package ++ ".") = true ↔
      ∃ name, frame.module = package ++ "." ++ name := by
    rw [String.startsWith_string_iff]
    constructor
    · rintro ⟨rest, hr⟩
      refine ⟨String.ofList rest, String.toList_injective ?_⟩
      rw [String.toList_append, String.toList_ofList, hr]
    · rintro ⟨name, hn⟩
      exact ⟨name.toList, by rw [hn, ← String.toList_append]⟩
  simp only [isInternal, InPackage, List.any_eq_true, Bool.or_eq_true, beq_iff_eq, hlies]

/-- A frame of these packages that runs no method of a test case. -/
structure Hidden (frame : Frame) : Prop where
  inPackage : frame.InPackage
  noCase : frame.testCase? = none

theorem InPackage.not_runner {frame : Frame} (h : frame.InPackage) :
    frame.module.startsWith Naming.runnerModule = false := by
  obtain ⟨package, hk, hp⟩ : ∃ package ∈ internalPackages,
      package.toList <+: frame.module.toList := by
    obtain ⟨package, hk, hm | ⟨name, hm⟩⟩ := h
    · exact ⟨package, hk, hm ▸ List.prefix_rfl⟩
    · refine ⟨package, hk, ?_⟩
      rw [hm, String.toList_append, String.toList_append, List.append_assoc]
      exact List.prefix_append _ _
  have hapart : ∀ package ∈ internalPackages,
      ¬ (package.toList <+: Naming.runnerModule.toList ∨
        Naming.runnerModule.toList <+: package.toList) := by decide
  rw [String.startsWith_string_eq_false_iff]
  exact fun hr => hapart package hk (List.prefix_or_prefix_of_prefix hp hr)

/-- A stack with hidden frames put in and taken out, one after the other and each anywhere. -/
inductive Varies (stack : List Frame) : List Frame → Prop where
  | same : Varies stack stack
  | insert {inner outer : List Frame} {frame : Frame} (h : Varies stack (inner ++ outer))
      (hf : frame.Hidden) : Varies stack (inner ++ frame :: outer)
  | remove {inner outer : List Frame} {frame : Frame} (h : Varies stack (inner ++ frame :: outer))
      (hf : frame.Hidden) : Varies stack (inner ++ outer)

end Frame

namespace Naming

/-- The call sites have in common what names are taken from. -/
structure Alike (site other : Callsite) : Prop where
  env : other.env = site.env
  directory : other.directory = site.directory
  named : other.named = site.named
  strategy : strategy other = strategy site

namespace Alike

variable {site other third : Callsite}

theorem refl (site : Callsite) : Alike site site := ⟨rfl, rfl, rfl, rfl⟩

theorem symm (h : Alike site other) : Alike other site :=
  ⟨h.env.symm, h.directory.symm, h.named.symm, h.strategy.symm⟩

theorem trans (h : Alike site other) (h' : Alike other third) : Alike site third :=
  ⟨h'.env.trans h.env, h'.directory.trans h.directory, h'.named.trans h.named,
    h'.strategy.trans h.strategy⟩

theorem insert (site : Callsite) {inner outer : List Frame} {frame : Frame} (hf : frame.Hidden) :
    Alike { site with frames := inner ++ outer }
      { site with frames := inner ++ frame :: outer } where
  env := rfl
  directory := rfl
  named := by
    have hi : (!frame.isInternal) = false := by
      rw [frame.isInternal_iff.mpr hf.inPackage, Bool.not_true]
    simp only [Callsite.named, List.filter_append, List.filter_cons, hi, Bool.false_eq_true,
      if_false]
  strategy := by
    simp only [Naming.strategy, announcement?, List.any_append, List.any_cons,
      hf.inPackage.not_runner, hf.noCase, Option.isSome_none, Bool.false_or]

theorem varies (site : Callsite) {frames : List Frame} (h : Frame.Varies site.frames frames) :
    Alike site { site with frames } := by
  induction h with
  | same => exact refl site
  | insert _ hf ih => exact ih.trans (insert site hf)
  | remove _ hf ih => exact ih.trans (insert site hf).symm

variable (h : Alike site other)

include h

theorem announcement? : announcement? other = announcement? site := by
  rw [Naming.announcement?, Naming.announcement?, h.env]

theorem nodeId? : nodeId? other = nodeId? site := by
  rw [Naming.nodeId?, Naming.nodeId?, h.announcement?]

theorem testFrame? : testFrame? other = testFrame? site := by
  rw [Naming.testFrame?, Naming.testFrame?, h.named]

theorem testCase? : testCase? other = testCase? site := by
  rw [Naming.testCase?, Naming.testCase?, h.named]

theorem entryFrame? : entryFrame? other = entryFrame? site := by
  rw [Naming.entryFrame?, Naming.entryFrame?, h.named]

theorem announcedSettings : announcedSettings other = announcedSettings site := by
  simp only [Naming.announcedSettings, fileSettings, h.nodeId?, h.testFrame?, h.directory]

theorem scriptSettings : scriptSettings (σ := σ) other = scriptSettings site := by
  simp only [Naming.scriptSettings, h.entryFrame?, h.directory]

theorem settings : settings (σ := σ) other = settings site := by
  simp only [Naming.settings, settingsBy, caseSettings, h.strategy, h.announcedSettings,
    h.testCase?, h.scriptSettings]

theorem test : test other = test site := by
  simp only [Naming.test, testBy, announcedTest, caseTest, scriptTest, h.strategy, h.nodeId?,
    h.testFrame?, h.testCase?, h.entryFrame?, h.named]

theorem completeSettings (given : Option ReportSettings) :
    Client.completeSettings (σ := σ) other given = Client.completeSettings site given := by
  simp only [Client.completeSettings, h.settings]

end Alike

end Naming

/-- The names that a request asks for are those that its session is started under. -/
theorem Kit.requestedSettings_agrees (site : Callsite) {client : Client} {request : ClientRequest}
    (hc : client.settings.isSome = true) (hr : request.disableReports = false) :
    (requestedSettings (σ := σ) site client request).Agrees
      (some <$> Client.completeSettings (σ := τ) site request.settings) := by
  have hn : client.settings.isNone = false := by
    rw [← Option.not_isSome, hc, Bool.not_true]
  simp only [requestedSettings, Client.completeSettings, hn, hr, Bool.or_false, Bool.false_eq_true,
    if_false]
  cases hf : request.settings.filter (·.isComplete) with
  | some given =>
    obtain ⟨hg, hcomplete⟩ := Option.filter_eq_some_iff.mp hf
    rw [hg, Option.any_some, if_pos hcomplete]
    exact .answer _
  | none =>
    have hany : request.settings.any (·.isComplete) = false := by
      rw [Option.any_eq_false]
      exact fun given hg => by simpa using Option.filter_eq_none_iff.mp hf given hg
    simp only [hany, Bool.false_eq_true, if_false]
    rw [map_eq_pure_bind, bind_assoc]
    exact .seq (Naming.settings_agrees site) fun inferred _ _ => rfl

namespace Naming

/-- Hidden frames that come or go change neither the name of the test nor the names of its session,
and what the cache takes for the names of a new session are those that it is started under, with
any such frames in between. -/
theorem hidden_frames_name_nothing (site : Callsite) {frames : List Frame}
    (h : Frame.Varies site.frames frames) :
    let other : Callsite := { site with frames }
    test other = test site ∧ settings (σ := σ) other = settings site ∧
      ∀ (client : Client) (request : ClientRequest), client.settings.isSome = true →
        request.disableReports = false →
          (Kit.requestedSettings (σ := σ) site client request).Agrees
            (some <$> Client.completeSettings (σ := τ) other request.settings) := by
  intro other
  have halike : Alike site other := .varies site h
  refine ⟨halike.test, halike.settings, fun client request hc hr => ?_⟩
  rw [halike.completeSettings]
  exact Kit.requestedSettings_agrees site hc hr

def clientFrame : Frame := ⟨"tpagent.core.agent_client", "__init__", "agent_client.py", some .plain⟩

theorem clientFrame_hidden : clientFrame.Hidden :=
  ⟨⟨"tpagent", by decide, .inr ⟨"core.agent_client", by decide⟩⟩, rfl⟩

theorem wait_hidden : Frame.wait.Hidden :=
  ⟨Frame.wait.isInternal_iff.mp Frame.isInternal_wait, rfl⟩

def namedClient (settings : ReportSettings) : Client where
  channel := { address := "http://localhost:8585", token := "t" }
  config := {}
  settings := some settings
  session := ⟨.null, .null, none, []⟩
  version := .null
  localReport := .null

/-- A frame of the kit is called by a test, which a wait has called. -/
theorem test_among_hidden_frames :
    let site := Callsite.within [.inTest "test_a"]
    let other := Callsite.within [clientFrame, .inTest "test_a", .wait]
    let request : ClientRequest := { capabilities := [], settings := some { project := some "p" } }
    Frame.Varies site.frames other.frames ∧ test other = test site ∧
      settings (σ := Unit) other = settings site ∧
      (Kit.requestedSettings (σ := Unit) site (namedClient {}) request).Agrees
        (some <$> Client.completeSettings (σ := Unit) other request.settings) := by
  intro site other request
  have hwait : Frame.Varies site.frames ([.inTest "test_a"] ++ [.wait]) :=
    .insert .same wait_hidden
  have hvaries : Frame.Varies site.frames ([] ++ other.frames) := .insert hwait clientFrame_hidden
  obtain ⟨htest, hsettings, hnames⟩ :=
    hidden_frames_name_nothing (σ := Unit) (τ := Unit) site hvaries
  exact ⟨hvaries, htest, hsettings, hnames (namedClient {}) request rfl rfl⟩

end Naming

end AgentReporting
