import AgentReporting.Connection.Endpoint
import AgentReporting.Recorder.Basic

/-! # Connections to the automation server

A driver names its session among the parameters of a command. The connection keeps
the session apart while the command is recorded, and puts it back to send it. Sessions
of mobile devices belong to the Agent, so quitting one sends nothing.
-/

namespace AgentReporting

structure Connection where
  address : String
  mobile : Bool := false

namespace Connection

variable {σ : Type}

/-- The automation server by the names of its commands. -/
abbrev Remote (σ : Type) := (name : String) → (params : Value) → Attempt σ Value

/-- The command that a driver asks for. -/
def commandOf (name : String) (params : Value) : Except Fault Command := do
  let params ← params.asDict
  return {
    sessionId := params.get Endpoint.sessionKey, name
    parameters := params.without [Endpoint.sessionKey] }

/-- The parameters of a command together with its session. -/
def parametersOf (c : Command) : Except Fault Value := do
  let params ← c.parameters.asDict
  if c.sessionId.truthy then return params.withFields [(Endpoint.sessionKey, c.sessionId)]
  else return params

/-- Whether a command is carried out without the server. -/
def skips (mobile : Bool) (c : Command) : Bool := mobile && c.isQuit

/-- Sends a command and reads the answer. -/
def sendBy (remote : Remote σ) (mobile : Bool) (c : Command) : Attempt σ Response := do
  if skips mobile c then return Response.done c
  let params ← Attempt.ofExcept (parametersOf c)
  let raw ← remote c.name params
  Attempt.ofExcept (Response.ofRaw c.sessionId raw)

/-- The automation server at the address of a connection. -/
def remote (net : Network σ) (connection : Connection) : Remote σ := fun name params => do
  let wire := Endpoint.wireCommand connection.mobile connection.address name params
  Attempt.ofResult (Act.outside (net.automate (← Attempt.ofExcept wire)))

def send (net : Network σ) (connection : Connection) : Command → Attempt σ Response :=
  sendBy (connection.remote net) connection.mobile

/-- Carries out what a driver asks for without recording it; the answer is raw. -/
def execute (net : Network σ) (connection : Connection) (name : String) (params : Value) :
    Attempt σ Value := do
  return (← connection.send net (← Attempt.ofExcept (commandOf name params))).raw

/-- Carries out what a driver asks for and records it; the answer is raw. -/
def record (links : Links σ) (site : Callsite) (name : String) (params : Value) :
    Recording σ (Except Fault Value) := do
  match commandOf name params with
  | .error fault => return .error fault
  | .ok c => return (← Recorder.execute links site c false).map (·.raw)

end Connection

end AgentReporting
