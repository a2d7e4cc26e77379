import AgentReporting.Client.Basic
import AgentReporting.Connection.Basic
import AgentReporting.Options

/-! # Drivers

A driver is bound to a session that the Agent has started. Drivers of browsers and
devices send commands to the automation server of the session; a generic driver has
none, and is there for its reports only.
-/

namespace AgentReporting

inductive MobilePlatform where
  | android
  | ios
deriving DecidableEq

inductive DriverKind where
  | browser (b : Browser)
  /-- Any browser, described by its options alone. -/
  | remote
  | device (platform : MobilePlatform)
  | generic
deriving DecidableEq

namespace DriverKind

def platformName : MobilePlatform → String
  | .android => "Android"
  | .ios => "iOS"

/-- What a driver asks for when no options are given. -/
def defaults : DriverKind → Except Fault Capabilities
  | browser b => .ok (Options.browser b [])
  | remote => .error (.missingOptions "Remote")
  | device platform => .ok (Options.mobile (some (platformName platform)))
  | generic => .ok [(platformKey, .str anyPlatform)]

def isMobile : DriverKind → Bool
  | device _ => true
  | _ => false

end DriverKind

structure Driver where
  kind : DriverKind
  /-- What its client was asked for; the capabilities are given for each session. -/
  request : ClientRequest
  /-- The client that takes its reports. -/
  client : Nat
  address : String := ""
  sessionId : Value := .null
  capabilities : Capabilities := []
  recorder : Recorder := {}

namespace Driver

def connection (driver : Driver) : Connection :=
  { address := driver.address, mobile := driver.kind.isMobile }

/-- A command without parameters. -/
def bareCommand (driver : Driver) (name : String) : Command :=
  { sessionId := driver.sessionId, name }

/-- A recorder for the session of a client. -/
def recorderFor (request : ClientRequest) (client : Client) : Recorder :=
  { capabilities := client.session.capabilities
    switches := {
      reportsDisabled := request.disableReports, testsDisabled := client.disablesAutoReports } }

/-- A driver that adopts the session of a client. -/
def adopt (driver : Driver) (client : Client) : Driver :=
  { driver with sessionId := client.session.id, capabilities := client.session.capabilities }

end Driver

end AgentReporting
