import AgentReporting.Naming
import AgentReporting.Recorder.Redaction
import AgentReporting.Recorder.Stash
import AgentReporting.Recorder.TestPeriod
import AgentReporting.Report

/-! # Recording commands

Every command goes to the automation server first and is reported to the Agent
afterwards. Attempts inside a wait are stashed, and reported once another command
or a switch ends the wait.
-/

namespace AgentReporting

/-- What is handed over to the Agent client. -/
inductive Submission where
  | command (command : Command) (result : Value) (passed : Bool) (screenshot : Value)
  | step (report : StepReport)
  | test (report : TestReport)

/-- What is posted for a submission. -/
def Submission.report : Submission → Report
  | command c result passed screenshot =>
    .command ⟨c.name, c.parameters, result, passed, screenshot⟩
  | step report => .step report
  | test report => .test report

/-- The automation server and, where reports are sent at all, the Agent client. -/
structure Links (σ : Type) where
  send : Command → Attempt σ Response
  /-- Hands a report over; the answer says whether it was accepted. -/
  submit : Option (Submission → Act σ Bool)

/-- What is not reported. -/
structure Switches where
  reportsDisabled : Bool := false
  commandsDisabled : Bool := false
  testsDisabled : Bool := false
  redactionDisabled : Bool := false
deriving DecidableEq

structure Recorder where
  capabilities : Capabilities := []
  switches : Switches := {}
  stash : Stash := []
  currentTest : Option String := none

/-- An operation on a recorder. -/
abbrev Recording (σ : Type) := StateT Recorder (Act σ)

namespace Recorder

variable {σ : Type}

/-- The way to submit a report, unless none is to be sent. -/
def sink? (links : Links σ) (recorder : Recorder) : Option (Submission → Act σ Bool) :=
  if recorder.switches.reportsDisabled then none else links.submit

/-- The command as it is reported. -/
def redacted (links : Links σ) (c : Command) : Recording σ (Except Fault Command) := do
  let recorder ← get
  if recorder.switches.redactionDisabled then return .ok c
  else return ← Redaction.redact links.send recorder.capabilities c

/-- Reports one command; the answer is false only when the report was refused. It fails where
the command is to be masked, but cannot be copied. -/
def tellCommand (links : Links σ) (attempt : Attempted) (screenshot : Value) :
    Recording σ (Except Fault Bool) := do
  let recorder ← get
  if recorder.switches.commandsDisabled then return .ok true
  match sink? links recorder with
  | none => return .ok true
  | some submit =>
    match ← redacted links attempt.command with
    | .error fault => return .error fault
    | .ok c =>
      let (result, passed) := (attempt.response.result, attempt.response.isPassed)
      return .ok (← submit (.command c result passed screenshot))

/-- Whether a report was not refused; one that failed was not even made. -/
def accepted : Except Fault Bool → Bool
  | .ok accepted => accepted
  | .error _ => true

/-- Reports a command that can be copied, which does not fail. -/
def reportCommand (links : Links σ) (attempt : Attempted) (screenshot : Value) :
    Recording σ Bool :=
  return accepted (← tellCommand links attempt screenshot)

/-- Reports copies in order. -/
def reportCopies (links : Links σ) : List Copy → Recording σ Unit
  | [] => return ()
  | copy :: rest => do
    if !(← reportCommand links copy.toAttempted .null) then
      Act.error (σ := σ) s!"Failed to report stashed command [{copy.command.name}]"
    reportCopies links rest

/-- Reports what is stashed and forgets it. -/
def clearStash (links : Links σ) : Recording σ Unit := do
  let recorder ← get
  set { recorder with stash := [] }
  reportCopies links (recorder.stash.map (·.2))

/-- Observes the name of the running test, and reports the test that ended by it. -/
def reportTest (links : Links σ) (name : Option String) (force : Bool) : Recording σ Unit := do
  let recorder ← get
  let (current, ended) := TestPeriod.observe force name recorder.currentTest
  set { recorder with currentTest := current }
  match ended, sink? links recorder with
  | some test, some submit => discard (submit (.test { name := test }))
  | _, _ => return ()

/-- Reports what has been carried out at a call site, or stashes it. -/
def report (links : Links σ) (site : Callsite) (attempt : Attempted) :
    Recording σ (Except Fault Unit) := do
  if !(← get).switches.testsDisabled then
    reportTest links (Naming.test site) attempt.command.isQuit
  if attempt.command.isQuit then return .ok ()
  if site.insideWait then
    match attempt.command.structuralKey with
    | .error fault => return .error fault
    | .ok key =>
      modify fun recorder => { recorder with stash := recorder.stash.put key attempt }
      return Fault.orOk attempt.copyFault? ()
  clearStash links
  let told ← tellCommand links attempt .null
  if !accepted told then
    Act.error (σ := σ) s!"Failed to report command [{attempt.command.name}]"
  return told.map fun _ => ()

/-- Carries a command out and reports it, unless reporting is skipped. -/
def execute (links : Links σ) (site : Callsite) (c : Command) (skipReporting : Bool) :
    Recording σ (Except Fault Response) := do
  match ← (links.send c).result with
  | .error fault => return .error fault
  | .ok response =>
    if skipReporting then return .ok response
    match ← report links site ⟨c, response⟩ with
    | .error fault => return .error fault
    | .ok () => return .ok response

/-- Submits the report of a test that was not inferred. -/
def reportManualTest (links : Links σ) (test : TestReport) : Recording σ Bool := do
  let recorder ← get
  match sink? links recorder with
  | none => return true
  | some submit =>
    if !recorder.switches.testsDisabled then
      Act.warn (σ := σ) ("Automatic test reports are enabled. Disable them to avoid duplicates " ++
        "alongside manually reported tests.")
    return ← submit (.test test)

end Recorder

end AgentReporting
