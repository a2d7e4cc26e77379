import AgentReporting.Client.Basic
import AgentReporting.Json.Reader

/-! # The version of the Agent

The Agent tells its version to anybody who asks. Some versions cannot continue a
session, and older ones do not know sessions without an automation server.
-/

namespace AgentReporting

namespace HttpAnswer

def isSuccess (answer : HttpAnswer) : Bool := isSuccessStatus answer.status

/-- The body, if it is JSON text. -/
def body? (answer : HttpAnswer) : Option Value := Json.read? answer.text

end HttpAnswer

namespace Client

variable {τ : Type}

/-- The first version whose sessions can be continued by another client. -/
def reuseVersion : String := "0.64.32"

/-- The first version that knows sessions for any platform. -/
def anyPlatformVersion : String := "0.64.40"

def statusRequest (address : String) : HttpRequest :=
  { method := "GET", url := Route.below address Route.status
    authorization := authorization address none
    readTimeout := Timeout.connection, body := none }

/-- An answer that is not what was agreed on, with a note in the log. -/
def unreadable {α : Type} (answer : HttpAnswer) (text : String) (failure : ConnectFailure) :
    Attempt τ α := do
  Attempt.lift (Act.errorBecause text s!"in {answer.text.length} characters")
  throw (.connect failure)

/-- The version in an answer to a status request. -/
def versionIn (answer : HttpAnswer) : Attempt τ Value := do
  if answer.status ≠ 200 then
    Attempt.error s!"Agent responded with an unexpected status {answer.status} to status request"
  match answer.body?.bind (·.field? "tag") with
  | some version => return version
  | none => unreadable answer "Failed to parse Agent response: " .unreadableAnswer

/-- Asks the Agent at an address for its version. -/
def askVersion (net : Network τ) (address : String) : Attempt τ Value := do
  match ← Attempt.lift (Act.outside (net.http (statusRequest address))) with
  | .ok answer => versionIn answer
  | .error fault =>
    if fault.isTransfer then
      Attempt.error s!"Failed to get Agent status: {fault.shown}"
      throw (.connect .statusRequest)
    throw fault

end Client

end AgentReporting
