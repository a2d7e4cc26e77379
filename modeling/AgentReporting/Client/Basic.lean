import AgentReporting.Config
import AgentReporting.Network
import AgentReporting.Outbox.Consumer
import AgentReporting.Session
import AgentReporting.Settings

/-! # Agent clients

A client holds one session of the Agent: the channel to it, what was asked for, what
the Agent answered, and the reports that wait.
-/

namespace AgentReporting

/-- The HTTP connection of a client, which is closed for good. -/
structure Channel where
  address : String
  token : String
  isOpen : Bool := true

namespace Channel

variable {τ : Type}

def request (channel : Channel) (method route : String) (timeout : Value) (body : Option String) :
    HttpRequest :=
  { method, url := Route.below channel.address route
    authorization := authorization channel.address (some channel.token)
    readTimeout := timeout, body }

/-- Sends a request; a closed channel sends nothing. -/
def send (net : Network τ) (channel : Channel) (method route : String) (timeout : Value)
    (body : Option String) : Attempt τ HttpAnswer :=
  if channel.isOpen then
    .ofResult (Act.outside (net.http (channel.request method route timeout body)))
  else throw .closedConnection

end Channel

structure Client where
  channel : Channel
  config : Config
  /-- The settings sent with the session request; none when nothing is reported. -/
  settings : Option ReportSettings
  session : Session
  /-- The version of the Agent, as it tells. -/
  version : Value
  localReport : Value
  worker : Option Worker := none
  closed : Bool := false

namespace Client

def trackingId (client : Client) : Value := client.session.trackingId

def disablesAutoReports (client : Client) : Bool := client.config.disableAutoReports

end Client

/-- What a client is asked for. -/
structure ClientRequest where
  capabilities : Capabilities
  address : Option String := none
  token : Option String := none
  settings : Option ReportSettings := none
  disableReports : Bool := false
  batchReports : Bool := false
  config : Option Config := none

end AgentReporting
