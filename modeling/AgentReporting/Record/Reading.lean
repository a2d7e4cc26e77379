import AgentReporting.Addon.Action
import AgentReporting.Client.Basic
import AgentReporting.Naming
import AgentReporting.Record.Basic
import AgentReporting.Recorder.Manual

/-! # Reading records

Requests, reports and call sites are given as records.
-/

namespace AgentReporting

def unknownReportType (name : String) : Fault :=
  .mismatch .value s!"{Text.quoted name} names no report type"

def ReportSettings.ofRecord (v : Value) : Except Fault ReportSettings :=
  let name := v.textAt "type" ReportType.cloudAndLocal.name
  match ReportType.ofName? name with
  | none => .error (unknownReportType name)
  | some type => .ok {
      project := v.textAt? "project", job := v.textAt? "job", type
      name := v.textAt? "name", path := v.textAt? "path" }

def Command.ofRecord (v : Value) : Command :=
  { sessionId := v.fieldOr "session_id" (.str "session-1"), name := v.textAt "name"
    parameters := v.fieldOr "parameters" (.dict []) }

/-- A response whose status is zero unless a state is told without one. -/
def Response.ofRecord (sessionId v : Value) : Response :=
  { sessionId, state := v.textAt "state" Response.success
    status := v.fieldOr "status" (if v.hasField "state" then .null else .int 0)
    value := v.get "value", raw := .dict [("value", v.get "value")] }

def TestReport.ofRecord (v : Value) : TestReport :=
  { name := v.textAt "name", passed := v.flagAt "passed" true, message := v.get "message" }

def CommandReport.ofRecord (v : Value) : CommandReport :=
  { name := v.textAt "command_name", parameters := v.fieldOr "command_parameters" (.dict [])
    result := v.get "result", passed := v.flagAt "passed", screenshot := v.get "screenshot" }

/-- A step, which gets a fresh identifier unless it has one. -/
def StepReport.ofRecord {σ : Type} (v : Value) : Act σ StepReport := do
  let guid ←
    match v.textAt? "guid" with
    | some guid => pure guid
    | none => Act.freshId
  return {
    guid, description := v.textAt "description", message := v.get "message"
    passed := v.flagAt "passed" true, screenshot := v.get "screenshot" }

/-- The kinds of reports that are given as records. -/
def Report.kinds : List String := ["command", "step", "test"]

/-- The report that a record of a known kind is. -/
def Report.ofRecord {σ : Type} (v : Value) : Act σ Report := do
  match v.textAt "kind" with
  | "command" => return .command (CommandReport.ofRecord v)
  | "step" => return .step (← StepReport.ofRecord v)
  | _ => return .test (TestReport.ofRecord v)

/-- Reads a report; a record without a known kind is none. -/
def Report.read {σ : Type} (v : Value) : Attempt σ Report := do
  if !Report.kinds.contains (v.textAt "kind") then
    .ofExcept (.error (.mismatch .key (Text.quoted (v.textAt "kind"))))
  .lift (Report.ofRecord v)

def Recorder.StepRequest.ofRecord (v : Value) : Recorder.StepRequest :=
  { description := v.textAt "description", message := v.get "message"
    passed := v.flagAt "passed" true, screenshot := v.flagAt "screenshot" }

def ManualTest.ofRecord (v : Value) : ManualTest :=
  { name := v.textAt "name", passed := v.flagAt "passed", message := v.get "message" }

/-- Assigns the fields that a record has. -/
def ManualTest.assign (test : ManualTest) (v : Value) : ManualTest :=
  { test with
    name := v.textAt "name" test.name, passed := v.flagAt "passed" test.passed
    message := v.fieldOr "message" test.message }

def Switches.assign (switches : Switches) (flag : String) (value : Bool) : Switches :=
  match flag with
  | "reports_disabled" => { switches with reportsDisabled := value }
  | "command_reports_disabled" => { switches with commandsDisabled := value }
  | "test_auto_reports_disabled" => { switches with testsDisabled := value }
  | _ => { switches with redactionDisabled := value }

/-! ## Call sites -/

def TestCase.ofRecord (v : Value) : TestCase :=
  { className := v.textAt "class", module := v.textAt "module", method := v.textAt? "method"
    source := v.textAt? "source" }

def Frame.ofRecord (v : Value) : Frame :=
  { module := v.textAt "module", function := v.textAt "function", file := v.textAt "filename"
    receiver :=
      if (v.get "case").isDict then some (.testCase (TestCase.ofRecord (v.get "case")))
      else if v.flagAt "instance" || v.flagAt "self" then some .plain else none }

def Environment.ofRecord (v : Value) : Environment :=
  (v.entriesAt "env").filterMap fun (key, value) => value.text?.map fun text => (key, text)

/-- Replaces the frames if a record has some. -/
def Callsite.withFrames (site : Callsite) (v : Value) : Callsite :=
  if v.hasField "frames" then { site with frames := (v.itemsAt "frames").map Frame.ofRecord }
  else site

/-! ## Clients and addon actions -/

def Config.ofRecord (v : Value) : Config :=
  { agentUrl := v.textAt "agent_url" defaultAgentUrl, token := v.textAt? "token"
    maxBatchSize := v.wholeAt "max_batch_size" defaultBatchSize
    disableAutoReports := v.flagAt "disable_auto_reports" }

def Addon.BaseType.ofName (name : String) : Addon.BaseType :=
  match name with
  | "int" => .int
  | "float" => .float
  | "bool" => .bool
  | "str" => .text
  | "any" => .any
  | _ => .other

def Addon.FieldType.ofName (name : String) : Addon.FieldType :=
  match name with
  | "int_or_none" => ⟨[.int]⟩
  | "none_or_float" => ⟨[.float]⟩
  | "union_int_str" => ⟨[.int, .text]⟩
  | "int_or_str_or_none" => ⟨[.int, .text]⟩
  | name => ⟨[Addon.BaseType.ofName ((name.dropPrefix "optional_").toString)]⟩

def Addon.Direction.ofName (name : String) : Addon.Direction :=
  match name with
  | "input" => .input
  | "output" => .output
  | _ => .plain

def Addon.Field.ofRecord (v : Value) : Addon.Field :=
  { name := v.textAt "name", direction := .ofName (v.textAt "dir" "plain")
    type := .ofName (v.textAt "type" "any"), value := v.get "default" }

def Addon.Action.ofRecord (v : Value) : Addon.Action :=
  { name := v.textAt "name", guid := v.textAt "guid", className := v.textAt "class_name"
    fields := (v.itemsAt "fields").map Addon.Field.ofRecord }

/-- How an element is found, given as a pair. -/
def Addon.locatorOf (v : Value) : Option (Value × Value) :=
  match v with
  | .list [strategy, value] => some (strategy, value)
  | _ => none

end AgentReporting
