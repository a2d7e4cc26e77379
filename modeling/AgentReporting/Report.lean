import AgentReporting.Command

/-! # Reports

Commands, steps and tests are reported to the Agent. The written form of a report
names its kind, and leaves out a screenshot that was not taken.
-/

namespace AgentReporting

structure CommandReport where
  name : String
  parameters : Value
  result : Value
  passed : Bool
  screenshot : Value := .null

structure StepReport where
  guid : String
  description : String
  message : Value := .null
  passed : Bool := true
  screenshot : Value := .null

structure TestReport where
  name : String
  passed : Bool := true
  message : Value := .null

inductive Report where
  | command (report : CommandReport)
  | step (report : StepReport)
  | test (report : TestReport)

namespace Report

/-- The kind of a report, as batches tell them apart. -/
def kind : Report → String
  | command _ => "Command"
  | step _ => "Step"
  | test _ => "Test"

/-- How log lines name a report. -/
def title : Report → String
  | command r => r.name
  | step r => r.description
  | test r => r.name

def screenshotField : Value → List (String × Value)
  | .null => []
  | screenshot => [("screenshot", screenshot)]

def fields (report : Report) : List (String × Value) :=
  match report with
  | command r =>
    [("commandName", .str r.name), ("commandParameters", r.parameters), ("result", r.result),
      ("passed", .bool r.passed), ("type", .str report.kind)] ++ screenshotField r.screenshot
  | step r =>
    [("guid", .str r.guid), ("description", .str r.description), ("message", r.message),
      ("passed", .bool r.passed), ("type", .str report.kind)] ++ screenshotField r.screenshot
  | test r =>
    [("name", .str r.name), ("passed", .bool r.passed), ("message", r.message),
      ("type", .str report.kind)]

def toValue (report : Report) : Value := .dict report.fields

/-- The written form of a report, if it has one. -/
def encode? (report : Report) : Option String := Json.encode? report.toValue

end Report

end AgentReporting
