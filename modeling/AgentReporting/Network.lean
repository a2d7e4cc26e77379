import AgentReporting.Liveness
import AgentReporting.Outbox.Basic
import AgentReporting.Text.Base64
import AgentReporting.Url

/-! # The network

Requests go to the Agent over HTTP, and a liveness connection tells it that the kit
is alive. What answers them is not part of the kit.
-/

namespace AgentReporting

structure HttpRequest where
  method : String
  url : String
  authorization : Option String
  /-- Seconds to wait for the answer. -/
  readTimeout : Value
  body : Option String

structure HttpAnswer where
  status : Nat
  text : String

/-- A request to the automation server, whose answers are read by its own protocol. -/
structure WireCommand where
  method : String
  url : String
  body : Value

/-- The Agent and its automation server as they are seen from here; `τ` is their state. -/
structure Network (τ : Type) where
  http : HttpRequest → StateM τ (Except Fault HttpAnswer)
  automate : WireCommand → StateM τ (Except Fault Value)
  openSocket : (host : String) → (port : Int) → Attempt τ Unit
  closeSocket : Act τ Unit

namespace Network

/-- A liveness connection beside the state of the network that carries it. -/
structure Held (τ : Type) where
  liveness : Liveness := {}
  world : τ

variable {τ : Type}

/-- Runs an operation on the connection that is held. -/
def onLiveness {α : Type} (act : StateT Liveness (Act τ) α) : Act (Held τ) α := do
  let held ← Act.getOutside
  let inWorld := act.run held.liveness
  let (a, liveness) ← Act.within Held.world (fun world held => { held with world }) inWorld
  Act.modifyOutside fun h => { h with liveness }
  return a

def onWorld {α : Type} (act : StateM τ α) : StateM (Held τ) α := fun held =>
  let (a, world) := act.run held.world
  (a, { held with world })

/-- The network that holds one liveness connection, made by dialling and ended by hanging up. -/
def live (http : HttpRequest → StateM τ (Except Fault HttpAnswer))
    (automate : WireCommand → StateM τ (Except Fault Value))
    (dial : String → Int → Act τ (Option String)) (hangUp : Act τ (Option String)) :
    Network (Held τ) where
  http request := onWorld (http request)
  automate command := onWorld (automate command)
  openSocket host port := Attempt.ofResult (onLiveness (Liveness.connect dial host port))
  closeSocket := onLiveness (Liveness.disconnect hangUp)

end Network

namespace Route

def status : String := "/api/status"

def session : String := "/api/development/session"

def commandReport : String := "/api/development/report/command"

def stepReport : String := "/api/development/report/step"

def testReport : String := "/api/development/report/test"

def batchReport : String := "/api/development/report/batch"

def action : String := "/api/addons/executions"

/-- The route on which a report is posted by itself. -/
def ofReport : Report → String
  | .command _ => commandReport
  | .step _ => stepReport
  | .test _ => testReport

/-- The address of a route below the address of the Agent. -/
def below (address route : String) : String :=
  match Url.ofString address with
  | .ok base => (base.extend route).toText
  | .error _ => address ++ route

end Route

/-- How a request to the Agent is authorised: by credentials in the address, or else by the
token. -/
def authorization (address : String) (token : Option String) : Option String :=
  match Url.ofString address with
  | .ok url =>
    match url.credentials? with
    | some bytes => some ("Basic " ++ String.ofList (Text.Base64.encode bytes))
    | none => token
  | .error _ => token

namespace Timeout

def connection : Value := .float 5.0

/-- Starting a browser or a device can take a while. -/
def session : Value := .float 120.0

def action : Value := .float 60.0

end Timeout

end AgentReporting
