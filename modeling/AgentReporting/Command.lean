import AgentReporting.Digest
import AgentReporting.Json.Printer
import AgentReporting.Value.Copying

/-! # Commands

A command is what a driver asks of the automation server. Two commands are the
same attempt when session, name and parameters agree up to the order of keys.
-/

namespace AgentReporting

structure Command where
  sessionId : Value
  name : String
  parameters : Value := .dict []

namespace Command

/-- A command like `c`, with some parameters replaced. -/
def withParameters (c : Command) (fields : Entries Value) : Command :=
  { c with parameters := c.parameters.withFields fields }

/-- Why a command cannot be copied, if it cannot. Parameters are put into the copy, so those
that are no dictionary stand in the way as much as those with a handle. -/
def copyFault? (c : Command) : Option Fault :=
  c.parameters.copyFault?.orElse fun _ =>
    if c.parameters.isDict then none else some (.noAttribute c.parameters "update")

/-- Session, name and parameters as one value. -/
def identity (c : Command) : Value :=
  .list [c.sessionId, .str c.name, c.parameters]

/-- The text that identifies an attempt, in which the keys of dictionaries are in order. -/
def keyText? (c : Command) : Option String :=
  Json.encode? (Json.sortKeys c.identity)

/-- The digest under which attempts of the same command are stashed. -/
def structuralKey (c : Command) : Except Fault String :=
  match c.keyText? with
  | some text => .ok (Digest.sha1 text)
  | none => .error Fault.foreignKey

def quit : String := "quit"

def screenshot : String := "screenshot"

def activeElement : String := "w3cGetActiveElement"

def elementAttribute : String := "getElementAttribute"

def sendKeysToElement : String := "sendKeysToElement"

def sendKeysToActiveElement : String := "sendKeysToActiveElement"

def isQuit (c : Command) : Bool := c.name == quit

end Command

end AgentReporting
