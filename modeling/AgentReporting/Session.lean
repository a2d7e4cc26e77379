import AgentReporting.Trail

/-! # Sessions

A session is what the Agent answers to a request to start one. Its tracking id
is a capability of its own, by which running sessions are told apart.
-/

namespace AgentReporting

/-- Wire protocol negotiated for a session. -/
inductive Dialect where
  | oss
  | w3c
deriving DecidableEq

namespace Dialect

def name : Dialect → String
  | oss => "OSS"
  | w3c => "W3C"

/-- Capital form of a character, as far as it matters for the names above: of the letters
outside ASCII only two have a capital form that is written with letters of the names. -/
def capital (c : Char) : List Char :=
  if c = 'ß' then ['S', 'S'] else if c = 'ſ' then ['S'] else [c.toUpper]

/-- Reads the name of a dialect in any case. -/
def ofName? (name : String) : Option Dialect :=
  let capitals := String.ofList (name.toList.flatMap capital)
  [oss, w3c].find? fun d => d.name == capitals

/-- Reads a dialect from data of any shape; nothing at all names none. -/
def ofValue (v : Value) : Except Fault (Option Dialect) :=
  match v with
  | .str text =>
    if text.isEmpty then .ok none
    else match ofName? text with
      | some dialect => .ok (some dialect)
      | none => .error (.mismatch .value s!"{Text.quoted text} names no dialect")
  | v => if v.truthy then .error (.noAttribute v "upper") else .ok none

end Dialect

/-- The capability that carries the tracking id. -/
def trackingKey : String := "tp:guid"

def platformKey : String := "platformName"

def browserKey : String := "browserName"

/-- The platform of drivers that have no automation server. -/
def anyPlatform : String := "ANY"

abbrev Capabilities := Entries Value

namespace Capabilities

def get (caps : Capabilities) (key : String) : Value :=
  (Entries.get? caps key).getD .null

def isAnyPlatform (caps : Capabilities) : Bool :=
  match get caps platformKey with
  | .str platform => platform == anyPlatform
  | _ => false

/-- Adds a fresh tracking id unless there is one. -/
def track {σ : Type} (caps : Capabilities) : Act σ Capabilities := do
  if Entries.has caps trackingKey then return caps
  else return Entries.put caps trackingKey (.str (← Act.freshId))

end Capabilities

structure Session where
  address : Value
  id : Value
  dialect : Option Dialect
  capabilities : Capabilities

/-- The tracking id of a session, null when there is none. -/
def Session.trackingId (session : Session) : Value :=
  Capabilities.get session.capabilities trackingKey

end AgentReporting
