import AgentReporting.Client.Status
import AgentReporting.Value.Coercion
import AgentReporting.Value.Parts

/-! # Requests of a running session

A client has addon actions carried out, and renames the job of its session.
-/

namespace AgentReporting.Client

variable {τ : Type}

/-- Seconds to wait for an action; without a positive number the usual time. -/
def actionTimeout (timeout : Value) : Except Fault Value := do
  if !timeout.truthy then return Timeout.action
  return if ← timeout.isPositive then timeout else Timeout.action

def readAction (className : Value) (answer : HttpAnswer) : Attempt τ Value := do
  if answer.status ≠ 200 then
    Attempt.error (s!"Agent responded with an unexpected status {answer.status} " ++
      s!"to action proxy execution: [{className.display}]")
  match answer.body? with
  | some data => return data
  | none => unreadable answer "Failed reading action proxy execution response: " .unreadableAction

/-- Has an addon action carried out; the answer is data of any shape. -/
def executeAction (net : Network τ) (client : Client) (descriptor timeout : Value) :
    Attempt τ Value := do
  let className := descriptor.get "className"
  let readTimeout ← Attempt.ofExcept (actionTimeout timeout)
  let some body := Json.encode? descriptor | throw Fault.foreignKey
  let sent := client.channel.send net "POST" Route.action readTimeout (some body)
  match ← Attempt.lift sent.result with
  | .ok answer => readAction className answer
  | .error fault =>
    if fault.isTransfer then
      Attempt.error s!"Failed to execute action proxy: [{className.display}]: {fault.shown}"
      throw (.connect (.actionRequest className))
    throw fault

/-- A number that strict JSON text cannot hold. -/
def notFinite : Fault :=
  .mismatch .value "Out of range float values are not JSON compliant"

/-- The body of a request that admits plain data with finite numbers only. -/
def strictBody (data : Value) : Except Fault String :=
  if !data.isPlain then .error (.mismatch .type "Object is not JSON serializable")
  else if !data.isFinite then .error notFinite
  else .ok (String.ofList (Json.text data))

/-- Renames the job of the session; a failed request is only logged. -/
def renameJob (net : Network τ) (client : Client) (name : Value) : Attempt τ Unit := do
  let body ← Attempt.ofExcept (strictBody (.dict [("jobName", name)]))
  let sent := client.channel.send net "PUT" Route.session Timeout.connection (some body)
  match ← Attempt.lift sent.result with
  | .ok answer =>
    if answer.status ≠ 200 then Attempt.error s!"Failed to update job name to {name.display}"
  | .error fault =>
    if !fault.isTransfer then throw fault
    Attempt.error
      s!"Failed to execute request to update job name: [{name.display}]: {fault.shown}"

end AgentReporting.Client
