import AgentReporting.Recorder.Basic

/-! # Manual reports

Steps and tests can be reported by hand, and each kind of report can be switched
off. A test is reported once, when it is closed.
-/

namespace AgentReporting

namespace Recorder

variable {σ : Type}

/-- Flips one switch. -/
def setSwitches (f : Switches → Switches) : Recording σ Unit :=
  modify fun recorder => { recorder with switches := f recorder.switches }

def disableReports (disabled : Bool) : Recording σ Unit :=
  setSwitches fun s => { s with reportsDisabled := disabled }

/-- What was observed before command reports are disabled is still reported. -/
def disableCommandReports (links : Links σ) (disabled : Bool) : Recording σ Unit := do
  if disabled then clearStash links
  setSwitches fun s => { s with commandsDisabled := disabled }

def disableTestReports (disabled : Bool) : Recording σ Unit :=
  setSwitches fun s => { s with testsDisabled := disabled }

def disableRedaction (disabled : Bool) : Recording σ Unit :=
  setSwitches fun s => { s with redactionDisabled := disabled }

/-- Takes a screenshot for a report; a failure is logged and leaves the report without one. -/
def takeScreenshot (camera : Option (Attempt σ Value)) : Act σ Value := do
  match camera with
  | none =>
    Act.warn "This driver does not support screenshots"
    return .null
  | some take =>
    match ← take.result with
    | .ok shot => return shot
    | .error fault =>
      Act.error s!"Failed to take a screenshot for the report: {fault.shown}"
      return .null

structure StepRequest where
  description : String
  message : Value := .null
  passed : Bool := true
  screenshot : Bool := false

/-- Reports a step; the answer is false only when the report was refused. -/
def step (links : Links σ) (camera : Option (Attempt σ Value)) (site : Callsite)
    (request : StepRequest) : Recording σ Bool := do
  let recorder ← get
  if !recorder.switches.reportsDisabled && !recorder.switches.testsDisabled then
    reportTest links (Naming.test site) false
  match sink? links (← get) with
  | none => return true
  | some submit =>
    let screenshot ← if request.screenshot then takeScreenshot (σ := σ) camera else pure .null
    let guid ← Act.freshId (σ := σ)
    return ← submit (.step {
      guid, description := request.description, message := request.message
      passed := request.passed, screenshot })

end Recorder

/-- A test that is reported when it is closed. -/
structure ManualTest where
  name : String
  passed : Bool := false
  message : Value := .null
  submitted : Bool := false

namespace ManualTest

variable {σ : Type}

/-- Submits the test, unless it has been submitted already. -/
def submit (links : Links σ) (test : ManualTest) : Recording σ (ManualTest × Bool) := do
  if test.submitted then return (test, true)
  let accepted ← Recorder.reportManualTest links ⟨test.name, test.passed, test.message⟩
  return ({ test with submitted := true }, accepted)

/-- The test after the block that it stands for: passed, unless the block failed. -/
def finished (test : ManualTest) (fault : Option Fault) : ManualTest :=
  match fault with
  | none => { test with passed := true }
  | some fault =>
    { test with
      passed := false
      message := if Response.isNull test.message then .str fault.shown else test.message }

/-- Submits the test at the end of its block. -/
def leave (links : Links σ) (test : ManualTest) (fault : Option Fault) : Recording σ ManualTest :=
  return (← submit links (test.finished fault)).1

end ManualTest

end AgentReporting
