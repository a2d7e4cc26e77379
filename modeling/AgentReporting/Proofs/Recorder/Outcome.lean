import AgentReporting.Proofs.Recorder.Direct
import AgentReporting.Proofs.Recorder.Sites
import AgentReporting.Scripted.Links

/-! # Outcomes of commands

What is reported does not change what comes of a command, unless recording it fails. That
happens in a wait to an attempt that has no JSON text to be stashed under, or that cannot be
copied, and outside a wait to text that is known to be a secret, but cannot be masked.
-/

namespace AgentReporting.Moment

open Recorder

variable {σ : Type} (links : Links σ) (m : Moment σ) (site : Callsite)

/-- The faults by which an attempt cannot be recorded that the automation server carried out. -/
inductive Breaks (a : Attempted) : Fault → Prop where
  | unkeyed : site.insideWait = true → a.command.keyText? = none → Breaks a Fault.foreignKey
  | uncopied {fault : Fault} : site.insideWait = true → a.command.keyText?.isSome = true →
      a.copyFault? = some fault → Breaks a fault
  /-- The lookups come after everything that is reported before. -/
  | unmasked {fault : Fault} : site.insideWait = false →
      (terms links m.recorder).takesCommands = true →
      m.recorder.switches.redactionDisabled = false →
      ((Redaction.hidesText links.send m.recorder.capabilities a.command).run
        (m.run (ready links site)).2.trail).1 = true →
      a.command.copyFault? = some fault → Breaks a fault

section

variable {links} {m} {site}

theorem breaks_inside_iff {a : Attempted} {fault : Fault} (hw : site.insideWait = true) :
    Breaks links m site a fault ↔
      a.command.keyText? = none ∧ fault = Fault.foreignKey ∨
        a.command.keyText?.isSome = true ∧ a.copyFault? = some fault := by
  constructor
  · rintro (⟨-, hk⟩ | ⟨-, hk, hc⟩ | ⟨hn⟩)
    · exact .inl ⟨hk, rfl⟩
    · exact .inr ⟨hk, hc⟩
    · cases hn.symm.trans hw
  · rintro (⟨hk, rfl⟩ | ⟨hk, hc⟩)
    · exact .unkeyed hw hk
    · exact .uncopied hw hk hc

theorem breaks_outside_iff {a : Attempted} {fault : Fault} (hw : site.insideWait = false) :
    Breaks links m site a fault ↔ (terms links m.recorder).takesCommands = true ∧
      m.recorder.switches.redactionDisabled = false ∧
        ((Redaction.hidesText links.send m.recorder.capabilities a.command).run
          (m.run (ready links site)).2.trail).1 = true ∧ a.command.copyFault? = some fault := by
  constructor
  · rintro (⟨hn⟩ | ⟨hn⟩ | ⟨-, ht, hr, hs, hc⟩)
    · cases hn.symm.trans hw
    · cases hn.symm.trans hw
    · exact ⟨ht, hr, hs, hc⟩
  · rintro ⟨ht, hr, hs, hc⟩
    exact .unmasked hw ht hr hs hc

end

theorem handRedacted_eq_error_iff {a : Attempted} {c : Except Fault Command} {fault : Fault} :
    (m.run (handRedacted links a .null c)).1 = .error fault ↔ c = .error fault := by
  cases c with
  | error reason => exact ⟨fun h => congrArg _ (Except.error.inj h), fun h => h ▸ rfl⟩
  | ok c => exact ⟨nofun, nofun⟩

variable {links} {m} in
/-- A report fails only where it is made, of a secret that cannot be copied. -/
theorem tellCommand_eq_error_iff {a : Attempted} {fault : Fault} :
    (m.run (tellCommand links a .null)).1 = .error fault ↔
      (terms links m.recorder).takesCommands = true ∧
        m.recorder.switches.redactionDisabled = false ∧
        ((Redaction.hidesText links.send m.recorder.capabilities a.command).run m.trail).1 = true ∧
        a.command.copyFault? = some fault := by
  cases ht : (terms links m.recorder).takesCommands with
  | false =>
    rw [run_tellCommand_of_untaken links ht]
    simp
  | true =>
    cases hr : m.recorder.switches.redactionDisabled with
    | true =>
      rw [run_tellCommand_of_plain links ht hr, handRedacted_eq_error_iff]
      simp
    | false =>
      rw [run_tellCommand links ht hr]
      simp only [handRedacted_eq_error_iff, Redaction.disguise_eq_error_iff, true_and]
      rfl

/-- Before an attempt is recorded, the running test is observed, which cannot fail. -/
theorem report_eq_error_iff {a : Attempted} {fault : Fault} :
    (m.run (report links site a)).1 = .error fault ↔
      a.command.isQuit = false ∧ Breaks links m site a fault := by
  have hready := run_ready links m site
  have hterms := terms_ready links m site
  rw [run_report]
  cases hq : a.command.isQuit with
  | true => simp [run_file, hq]
  | false =>
    rw [and_iff_right rfl]
    generalize m.observed links (Naming.test site) false = seen at hready
    rw [run_file, hq]
    cases hw : site.insideWait with
    | true =>
      rw [breaks_inside_iff hw]
      simp only [Bool.false_eq_true, if_false, if_true, Command.structuralKey]
      cases a.command.keyText? with
      | none => simp [eq_comm]
      | some text => simp [Fault.orOk_eq_error_iff]
    | false =>
      rw [breaks_outside_iff hw]
      simp only [Bool.false_eq_true, if_false, map_eq_error_iff, told, ← hready]
      have hswitches := congrArg (·.switches.redactionDisabled) hterms
      have hcaps := congrArg Terms.capabilities hterms
      simp only [terms] at hswitches hcaps
      rw [tellCommand_eq_error_iff, hterms, hswitches, hcaps]

/-- A command is answered as the automation server answered it, whatever is reported on the
way, unless it breaks. Where the server failed, nothing but its failure happens. -/
theorem execute_answer (c : Command) (skip : Bool) :
    let sent := (links.send c).result.run m.trail
    let done := m.run (Recorder.execute links site c skip)
    match sent.1 with
    | .error fault => done = (.error fault, { m with trail := sent.2 })
    | .ok response => (∀ answer, done.1 = .ok answer → answer = response) ∧
      ∀ fault, done.1 = .error fault ↔ skip = false ∧ c.isQuit = false ∧
        Breaks links { m with trail := sent.2 } site ⟨c, response⟩ fault := by
  intro sent done
  have hd : done = _ := run_execute links m site c skip
  rw [hd, show (links.send c).result.run m.trail = sent from rfl]
  obtain ⟨answer, trail⟩ := sent
  cases answer with
  | error fault => rfl
  | ok response =>
    cases skip with
    | true => exact ⟨fun answer h => (Except.ok.inj h).symm, by simp⟩
    | false =>
      refine ⟨fun answer h => ?_, fun fault => ?_⟩
      · obtain ⟨-, -, rfl⟩ := map_eq_ok_iff.mp h
        rfl
      · rw [and_iff_right rfl]
        exact map_eq_error_iff.trans (report_eq_error_iff ..)

def foreignCommand : Command :=
  { sessionId := .str "session-1", name := "findElement", parameters := .paired (.int 1) [] }

/-- The server carries the attempt out, and yet it fails. -/
theorem foreign_attempt_fails :
    let links := ScriptedLinks.links true
    let m : Moment ScriptedLinks := ⟨{}, { outside := {} }⟩
    ((links.send foreignCommand).result.run m.trail).1 = .ok (Response.done foreignCommand) ∧
      (m.run (Recorder.execute links (.within [.wait]) foreignCommand false)).1 =
        .error Fault.foreignKey :=
  ⟨rfl, rfl⟩

end AgentReporting.Moment
