import AgentReporting.Value.Display

/-! # Faults

Every way in which an operation can fail is a constructor; its wording is given
once, by `message`. Faults that the kit raises itself are apart from those that
it passes on from the servers and files around it.
-/

namespace AgentReporting

/-- How a request failed before an answer arrived. -/
inductive TransferKind where
  | connect
  | read
  | network
  | proxy
  | protocolViolation
  | unsupportedProtocol
  | decoding
  | tooManyRedirects
  | connectTimeout
  | readTimeout
  | writeTimeout
  | poolTimeout
deriving DecidableEq

def TransferKind.isTimeout : TransferKind → Bool
  | connectTimeout | readTimeout | writeTimeout | poolTimeout => true
  | _ => false

/-- Kinds of faults that a collaborator may raise. -/
inductive ForeignKind where
  | runtime
  | value
  | key
  | type
  | connection
  | assertion
  | os
deriving DecidableEq

/-- Data from outside that does not have the shape its use asks for. -/
inductive Mismatch where
  | type
  | attribute
  | key
  | value
  | overflow
  | encoding
  | os
deriving DecidableEq

/-- What the Agent said it cannot find. -/
inductive Missing where
  | browser
  | device
deriving DecidableEq

/-- Why talking to the Agent failed. -/
inductive ConnectFailure where
  | statusRequest
  | unreadableAnswer
  | interrupted
  | unreachable
  | communication (address : String)
  | unknownDialect (dialect : Value)
  | refused (status : Nat) (message : Option String)
  | missing (target : Missing) (name : Value)
  | socket (host : String) (port : Int)
  | actionRequest (className : Value)
  | unreadableAction
  /-- A failure that a caller words itself. -/
  | worded (message : String) (status : Option Int)

namespace ConnectFailure

def message : ConnectFailure → String
  | statusRequest => "Failed to get Agent status"
  | unreadableAnswer => "Failed to parse Agent response"
  | interrupted =>
    "Could not complete the request to start a new session. " ++
      "Another program such as an antivirus/firewall seems to be interfering with the connection."
  | unreachable => "Could not connect to agent. Please make sure it is running and try again"
  | communication address => s!"Failed communicating with the Agent at {address}"
  | unknownDialect dialect => s!"Agent returned an unknown dialect: [{dialect.display}]"
  | refused status message =>
    s!"Agent responded with status {status}: [{(Value.ofText? message).display}]"
  | missing .browser name => s!"Requested browser {name.display} is not installed"
  | missing .device name => s!"Requested device {name.display} is not connected"
  | socket host port => s!"Failed connecting to Agent socket at {host}:{port}"
  | actionRequest className => s!"Failed to execute action proxy: [{className.display}]"
  | unreadableAction => "Failed reading action proxy execution response"
  | worded message _ => message

/-- The status of the answer that refused the request. -/
def status? : ConnectFailure → Option Int
  | refused status _ => some status
  | worded _ status => status
  | _ => none

/-- What the Agent said it cannot find, where that is the cause. -/
def missing? : ConnectFailure → Option Missing
  | missing target _ => some target
  | _ => none

end ConnectFailure

/-- Faults that the kit raises itself. -/
inductive KitFault where
  | general (message : String)
  | invalidToken (message : String)
  | connect (failure : ConnectFailure)
  | obsoleteVersion (message : Option String) (agentVersion : Value)
  | missing (target : Missing) (message : String)
  | failedReport (message : String) (attempts count : Int)
  | addonExecution (message : String) (resultType : Value)

namespace KitFault

def tokenMessage : String := "The development token is invalid or missing."

def obsoleteMessage : String := "The SDK or Agent version is obsolete, please upgrade."

def message : KitFault → String
  | general message => message
  | invalidToken message => message
  | connect failure => failure.message
  | obsoleteVersion (some message) _ => if message.isEmpty then obsoleteMessage else message
  | obsoleteVersion none _ => obsoleteMessage
  | missing _ message => message
  | failedReport message _ _ => message
  | addonExecution message _ => message

end KitFault

inductive Fault where
  | kit (fault : KitFault)
  | transfer (kind : TransferKind) (text : String)
  | invalidUrl (text : String)
  | foreign (kind : ForeignKind) (text : String)
  | malformedAddress (address : String)
  | invalidVersion (version : String)
  | unnamedAction (action : String)
  | missingReport
  | missingOptions (driver : String)
  | unknownCommand (name : String)
  | invalidArgument (text : String)
  | noSuchElement (text : String)
  | automation (text : String)
  | closedConnection
  | mismatch (kind : Mismatch) (text : String)

namespace Fault

/-- Where the automation library explains that an element was not found. -/
def elementNote : String :=
  "; For documentation on this error, please visit: " ++
    "https://www.selenium.dev/documentation/webdriver/troubleshooting/errors" ++
    "#nosuchelementexception"

def message : Fault → String
  | kit fault => fault.message
  | transfer _ text => text
  | invalidUrl text => text
  | foreign .key text => Text.quoted text
  | foreign _ text => text
  | malformedAddress address => s!"Malformed Agent address: {Text.quoted address}"
  | invalidVersion version => s!"Invalid version string: {Text.quoted version}"
  | unnamedAction action => s!"{action} must define addon_guid and class_name"
  | missingReport => "Report must not be None"
  | missingOptions driver => s!"{driver} requires options"
  | unknownCommand name => s!"Unrecognised command {name}"
  | invalidArgument text => text
  | noSuchElement text => text ++ elementNote
  | automation text => text
  | closedConnection => "Cannot send a request, as the client has been closed."
  | mismatch _ text => text

/-- The fault as log lines show it. -/
def shown : Fault → String
  | invalidArgument text => s!"Message: {text}\n"
  | noSuchElement text => s!"Message: {text}{elementNote}\n"
  | automation text => s!"Message: {text}\n"
  | fault => fault.message

/-- An operation that values of this kind do not have. -/
def noAttribute (v : Value) (name : String) : Fault :=
  mismatch .attribute s!"'{v.kindName}' object has no attribute '{name}'"

/-- A value whose items cannot be gone through. -/
def notIterable (v : Value) : Fault :=
  mismatch .type s!"'{v.kindName}' object is not iterable"

/-- A dictionary key that JSON text cannot hold. -/
def foreignKey : Fault :=
  mismatch .type "keys must be str, int, float, bool or None, not tuple"

/-- A copy of a live object of a kind that has none. -/
def uncopied (kind : String) : Fault :=
  mismatch .type s!"cannot pickle '{kind}' object"

def connect (failure : ConnectFailure) : Fault := kit (.connect failure)

/-- A failed request, as against a fault of any other kind. -/
def isTransfer : Fault → Bool
  | transfer _ _ => true
  | _ => false

/-- A value that does not fit, whoever found it. -/
def isValueFault : Fault → Bool
  | foreign .value _ => true
  | malformedAddress _ => true
  | invalidVersion _ => true
  | unnamedAction _ => true
  | missingReport => true
  | mismatch .value _ => true
  | mismatch .encoding _ => true
  | _ => false

def isKit : Fault → Bool
  | kit _ => true
  | _ => false

/-- An answer, unless there is a fault. -/
def orOk {α : Type} (fault? : Option Fault) (a : α) : Except Fault α :=
  match fault? with
  | some fault => .error fault
  | none => .ok a

theorem orOk_eq_error_iff {α : Type} {fault? : Option Fault} {a : α} {fault : Fault} :
    orOk fault? a = .error fault ↔ fault? = some fault := by
  cases fault? <;> simp [orOk]

theorem orOk_eq_ok_iff {α : Type} {fault? : Option Fault} {a b : α} :
    orOk fault? a = .ok b ↔ fault? = none ∧ a = b := by
  cases fault? <;> simp [orOk]

end Fault

end AgentReporting
