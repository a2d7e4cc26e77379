import AgentReporting.Record.Basic
import AgentReporting.Scripted.Agent

/-! # Records of scripted worlds

Scripts are given as records, whose faults are read apart, and what was sent to the
world is written as records.
-/

namespace AgentReporting

variable {α : Type}

/-- An answer, unless the record tells a fault. -/
def Script.entry (fault? : Value → Option Fault) (read : Value → α) (v : Value) : Except Fault α :=
  match fault? v with
  | some fault => .error fault
  | none => .ok (read v)

def Reply.bodyOf (v : Value) : ReplyBody :=
  match v.field? "json", v.textAt? "text" with
  | some .null, _ => .text ""
  | some data, _ => .data data
  | none, some text => .text text
  | none, none => .usual

def Reply.ofRecord (v : Value) : Reply :=
  { status := (v.wholeAt "status" 200).toNat, body := bodyOf v, patch := v.entriesAt "patch"
    drop := (v.itemsAt "drop").filterMap Value.text? }

def ScriptedAgent.ofRecord (fault? : Value → Option Fault) (v : Value) : ScriptedAgent :=
  let script (key : String) : ReplyScript :=
    (v.itemsAt key).map (Script.entry fault? Reply.ofRecord)
  { version := v.fieldOr "version" (.str "1.2.0"), status := script "status"
    session := script "session", rename := script "put", action := script "addon"
    report := script "report" }

def ScriptedServer.ofRecord (fault? : Value → Option Fault) (v : Value) : ScriptedServer :=
  v.entries.map fun (key, script) =>
    (key, script.itemsOf.map (Script.entry fault? id))

/-- The data of a body that was written by the kit. -/
def jsonData (body : String) : Value := (Json.read? body).getD .null

/-- A request; reports are told without their headers. -/
def HttpRequest.toRecord (request : HttpRequest) : Value :=
  let headers := [("authorization", Value.ofText? request.authorization),
    ("read_timeout", request.readTimeout)]
  .dict ([("method", .str request.method), ("url", .str request.url)] ++
    (request.body.map fun body => ("body", jsonData body)).toList ++
    (if ScriptedAgent.topic request = .report then [] else headers))

def WireCommand.toRecord (command : WireCommand) : Value :=
  .dict [("method", .str command.method), ("url", .str command.url), ("body", command.body)]

def SocketEvent.toRecord : SocketEvent → Value
  | opened host port => .list [.str "open", .str host, .int port]
  | closed => .list [.str "close"]

end AgentReporting
