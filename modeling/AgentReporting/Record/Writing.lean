import AgentReporting.Addon.Action
import AgentReporting.Client.Basic
import AgentReporting.Driver.Basic
import AgentReporting.Recorder.Manual

/-! # Writing records

What operations leave behind is written as records with fixed fields.
-/

namespace AgentReporting

def ReportSettings.toRecord (s : ReportSettings) : Value :=
  .dict [("project", Value.ofText? s.project), ("job", Value.ofText? s.job),
    ("type", .str s.type.name), ("name", Value.ofText? s.name), ("path", Value.ofText? s.path)]

def Dialect.toRecord (dialect : Option Dialect) : Value :=
  Value.ofText? (dialect.map Dialect.name)

def Session.toRecord (session : Session) : Value :=
  .dict [("guid", session.trackingId), ("capabilities", .dict session.capabilities),
    ("dialect", Dialect.toRecord session.dialect), ("remote_address", session.address)]

def Config.toRecord (c : Config) : Value :=
  .dict [("agent_url", .str c.agentUrl), ("token", Value.ofText? c.token),
    ("max_batch_size", .int c.maxBatchSize), ("disable_auto_reports", .bool c.disableAutoReports)]

def Command.toRecord (c : Command) : Value :=
  .dict [("session_id", c.sessionId), ("name", .str c.name), ("parameters", c.parameters)]

def Response.toRecord (r : Response) : Value :=
  .dict [("session_id", r.sessionId), ("state", .str r.state), ("status", r.status),
    ("value", r.value), ("passed", .bool r.isPassed), ("result", r.result)]

def Attempted.toRecord (attempt : Attempted) : Value :=
  .dict [("command", attempt.command.toRecord), ("response", attempt.response.toRecord)]

def Submission.toRecord : Submission → Value
  | command c result passed screenshot =>
    .dict [("kind", .str "command"), ("session_id", c.sessionId), ("name", .str c.name),
      ("parameters", c.parameters), ("result", result), ("passed", .bool passed),
      ("screenshot", screenshot)]
  | step report => .dict [("kind", .str "step"), ("report", (Report.step report).toValue)]
  | test report => .dict [("kind", .str "test"), ("report", (Report.test report).toValue)]

def Addon.Action.toRecord (action : Addon.Action) : Value :=
  .dict [("inputs", .list (action.inputs.map .str)), ("outputs", .list (action.outputs.map .str)),
    ("fields", .dict action.values)]

def Addon.Answer.toRecord (answer : Addon.Answer) : Value :=
  .dict [("result_type", answer.resultType), ("message", answer.message),
    ("passed", .bool answer.passed),
    ("fields", .list (answer.results.map fun r => .list [r.name, r.value, .bool r.isOutput]))]

def Frame.toRecord (frame : Frame) : Value :=
  .list [.str frame.module, .str frame.function, .str frame.file, .bool frame.receiver.isSome]

/-- What a test ended with, and whether it was submitted. -/
def ManualTest.toRecord (test : ManualTest) : Value :=
  .list [.bool test.passed, test.message, .bool test.submitted]

def Level.name : Level → String
  | info => "INFO"
  | warning => "WARNING"
  | error => "ERROR"

/-- A line of the log, in which the words of an outside reader are left open. -/
def LogLine.toText (line : LogLine) : String :=
  line.level.name ++ " " ++ line.text ++ (if line.reason.isSome then "<detail>" else "")

/-- The state of a consumer and its outbox. -/
def Worker.toRecord (worker : Worker) : Value :=
  .dict ([("pending", .int worker.outbox.parcels.length),
    ("running", .bool worker.outbox.running)] ++
      if worker.phase == .absent then [] else [("alive", .bool worker.isAlive)])

/-- The state of a driver that may be registered for shutdown. -/
def Driver.toRecord (driver : Driver) (registered : Bool) : Value :=
  .dict [("registered", .bool registered),
    ("current_test", Value.ofText? driver.recorder.currentTest),
    ("stashed", .int driver.recorder.stash.length)]

/-- The size of the batches, which an outbox without batches does not have. -/
def Outbox.batchLimit (outbox : Outbox) : Except Fault Value :=
  match outbox.mode with
  | .single => .error (.mismatch .attribute "the outbox posts no batches")
  | .batch _ maxSize _ => .ok (.int maxSize)

def Outbox.batchSize (outbox : Outbox) : Value :=
  match outbox.batchLimit with
  | .ok size => size
  | .error _ => .null

def Client.toRecord (client : Client) (kindOf : Outbox → Value) : Value :=
  let outbox := client.worker.map (·.outbox)
  .dict [("session_id", client.session.id), ("remote_address", client.session.address),
    ("dialect", Dialect.toRecord client.session.dialect),
    ("capabilities", .dict client.session.capabilities), ("tracking_id", client.trackingId),
    ("agent_version", client.version),
    ("settings", (client.settings.map (·.toRecord)).getD .null),
    ("local_report", client.localReport), ("address", .str client.channel.address),
    ("disable_auto_reports", .bool client.disablesAutoReports),
    ("queue", (outbox.map kindOf).getD .null),
    ("batch_size", (outbox.map (·.batchSize)).getD .null)]

end AgentReporting
