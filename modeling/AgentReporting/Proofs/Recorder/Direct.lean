import AgentReporting.Proofs.Recorder.Quitting

/-! # Commands outside a wait

A command outside a wait is reported at once, when the test before it and everything stashed
have been reported. Lookups for its own report come last.
-/

namespace AgentReporting

variable {σ : Type}

namespace Recorder

/-- What is reported before a command outside a wait is: the test that has ended, and
everything stashed. -/
def ready (links : Links σ) (site : Callsite) : Recording σ Unit := do
  if !(← get).switches.testsDisabled then reportTest links (Naming.test site) false
  clearStash links

theorem ready_conducted {client : Bool} (site : Callsite) :
    Recording.Conducted client fun _ links => ready links site := by
  refine .seq .read fun recorder => .ite (.seq (reportTest_conducted _ _) fun _ => ?_) ?_
  · exact clearStash_conducted
  · exact clearStash_conducted

end Recorder

namespace Moment

open Recorder

variable (links : Links σ) (m : Moment σ)

theorem run_ready (site : Callsite) :
    (m.run (ready links site)).2 = (m.observed links (Naming.test site) false).cleared links := by
  rw [ready, observed, run_bind, run_get]
  cases m.recorder.switches.testsDisabled <;> rfl

theorem terms_ready (site : Callsite) :
    terms links (m.run (ready links site)).2.recorder = terms links m.recorder := by
  have hu : Recording.Unseen (ready links site) (ready links.watched site) :=
    .of_conducted (fun _ => ready_conducted site) links
  have hk : (m.watched.run (ready links.watched site)).2.recorder =
      (m.run (ready links site)).2.recorder := congrArg (·.recorder) (run_unseen m.watched hu).2
  have ho := Follows.observation links m.watched.recorder.book_describes site false
  have ht := (Follows.flushed links ho.describes).terms.trans ho.terms
  rw [← run_ready, hk] at ht
  simp only [terms, links.isSome_watched] at ht
  exact ht

variable {m} in
theorem run_tellCommand_of_taken (ht : (terms links m.recorder).takesCommands = true)
    (a : Attempted) :
    m.run (tellCommand links a .null) =
      let shown := m.run (redacted links a.command)
      shown.2.run (handRedacted links a .null shown.1) := by
  obtain ⟨hc, ht⟩ := Bool.and_eq_true_iff.mp ht
  have hc : m.recorder.switches.commandsDisabled = false := by simpa [terms] using hc
  have hs : sink? links m.recorder = some links.hand := (sink?_eq rfl _).trans (if_pos ht)
  rw [tellCommand, run_bind, run_get]
  simp only [hc, Bool.false_eq_true, if_false, hs, run_bind]
  generalize m.run (redacted links a.command) = shown
  obtain ⟨c, after⟩ := shown
  cases c <;> rfl

variable {m} in
/-- Where commands are reported, the field is asked about and the command handed over, unless
it cannot be masked. -/
theorem run_tellCommand (ht : (terms links m.recorder).takesCommands = true)
    (hr : m.recorder.switches.redactionDisabled = false) (a : Attempted) :
    m.run (tellCommand links a .null) =
      let verdict :=
        m.run (liftM (Redaction.hidesText links.send m.recorder.capabilities a.command))
      verdict.2.run (handRedacted links a .null (Redaction.disguise verdict.1 a.command)) := by
  have hredacted : m.run (redacted links a.command) =
      m.run (liftM (Redaction.redact links.send m.recorder.capabilities a.command)) := by
    rw [redacted, run_bind, run_get, hr]
    rfl
  rw [run_tellCommand_of_taken links ht, hredacted]
  rfl

variable {m} in
theorem run_tellCommand_of_plain (ht : (terms links m.recorder).takesCommands = true)
    (hr : m.recorder.switches.redactionDisabled = true) (a : Attempted) :
    m.run (tellCommand links a .null) = m.run (handRedacted links a .null (.ok a.command)) := by
  have hredacted : m.run (redacted links a.command) = (.ok a.command, m) := by
    rw [redacted, run_bind, run_get, hr]
    rfl
  rw [run_tellCommand_of_taken links ht, hredacted]

variable {m} in
theorem run_tellCommand_of_untaken (ht : (terms links m.recorder).takesCommands = false)
    (a : Attempted) : m.run (tellCommand links a .null) = (.ok true, m) := by
  rw [tellCommand, run_bind, run_get]
  cases hc : m.recorder.switches.commandsDisabled with
  | true => rfl
  | false =>
    have ht : (terms links m.recorder).takesReports = false := by
      simpa [Terms.takesCommands, terms, hc] using ht
    rw [sink?_eq_none ht]
    rfl

/-- A command outside a wait is sent, and reported when everything before it is. -/
theorem run_execute_direct {site : Callsite} {c : Command} (hq : c.isQuit = false)
    (hw : site.insideWait = false) :
    m.run (execute links site c false) =
      let sent := m.run (liftM (links.send c).result)
      match sent.1 with
      | .error fault => (.error fault, sent.2)
      | .ok response =>
        let due := (sent.2.run (ready links site)).2
        ((due.run (tellCommand links ⟨c, response⟩ .null)).1.map fun _ => response,
          due.reported links s!"Failed to report command [{c.name}]" ⟨c, response⟩) := by
  rw [run_execute, run_liftM]
  obtain ⟨answer, t⟩ := (links.send c).result.run m.trail
  cases answer with
  | error fault => rfl
  | ok response =>
    have hmap (told : Except Fault Bool) :
        (told.map fun _ => ()).map (fun _ => response) = told.map fun _ => response := by
      cases told <;> rfl
    simp only [Bool.false_eq_true, if_false, run_report, hq, run_file, hw, run_ready, told, hmap]

end Moment

end AgentReporting
