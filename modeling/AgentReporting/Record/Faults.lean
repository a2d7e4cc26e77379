import AgentReporting.Fault
import AgentReporting.Record.Basic

/-! # Faults given by arguments

A fault of the kit is made from arguments, which stand in order or have names. Faults
without data of their own take any number of them in order. Arguments that do not fit
the parameters are a mismatch.
-/

namespace AgentReporting

inductive KitFaultKind where
  | general
  | invalidToken
  | connect
  | obsoleteVersion
  | missing (target : Missing)
  | failedReport
  | addonExecution
deriving DecidableEq

def KitFault.kind : KitFault → KitFaultKind
  | general _ => .general
  | invalidToken _ => .invalidToken
  | connect _ => .connect
  | obsoleteVersion _ _ => .obsoleteVersion
  | missing target _ => .missing target
  | failedReport _ _ _ => .failedReport
  | addonExecution _ _ => .addonExecution

structure Arguments where
  inOrder : List Value := []
  named : Entries Value := []

namespace Arguments

def unfit : Fault := .mismatch .type "the arguments do not fit the parameters"

/-- The text of arguments that stand in order: that of a single one, or else of all. -/
def wording (arguments : Arguments) : Except Fault String :=
  if !arguments.named.isEmpty then .error unfit
  else match arguments.inOrder with
    | [] => .ok ""
    | [v] => .ok v.display
    | vs => .ok ("(" ++ Value.shownItems vs ++ ")")

/-- Refuses arguments for which there is no parameter. -/
def fit (arguments : Arguments) (parameters : List String) : Except Fault Unit :=
  if arguments.inOrder.length ≤ parameters.length &&
      arguments.named.all fun entry => parameters.contains entry.1 then .ok ()
  else .error unfit

/-- The argument for a parameter, which is not given twice. -/
def find? (arguments : Arguments) (position : Nat) (name : String) :
    Except Fault (Option Value) :=
  match arguments.inOrder[position]?, Entries.get? arguments.named name with
  | some _, some _ => .error unfit
  | some v, none => .ok (some v)
  | none, v => .ok v

def required (arguments : Arguments) (position : Nat) (name : String) : Except Fault Value := do
  let some v ← arguments.find? position name | throw unfit
  return v

def optional (arguments : Arguments) (position : Nat) (name : String) (default : Value) :
    Except Fault Value :=
  return (← arguments.find? position name).getD default

end Arguments

/-- The fault of a kind that the arguments tell. -/
def KitFault.ofArguments (kind : KitFaultKind) (arguments : Arguments) : Except Fault KitFault := do
  match kind with
  | .general => return general (← arguments.wording)
  | .missing target => return missing target (← arguments.wording)
  | .invalidToken =>
    arguments.fit ["message"]
    return invalidToken (← arguments.optional 0 "message" (.str tokenMessage)).display
  | .connect =>
    arguments.fit ["message", "status_code"]
    let message ← arguments.required 0 "message"
    return connect (.worded message.display (← arguments.optional 1 "status_code" .null).whole?)
  | .obsoleteVersion =>
    arguments.fit ["message", "agent_version"]
    let message ← arguments.optional 0 "message" .null
    let told := if message.truthy then some message.display else none
    return obsoleteVersion told (← arguments.optional 1 "agent_version" .null)
  | .failedReport =>
    arguments.fit ["message", "attempts", "count"]
    let message ← arguments.required 0 "message"
    let attempts ← arguments.optional 1 "attempts" (.int 0)
    let count ← arguments.optional 2 "count" (.int 1)
    return failedReport message.display (attempts.whole?.getD 0) (count.whole?.getD 0)
  | .addonExecution =>
    arguments.fit ["message", "result_type"]
    let message ← arguments.required 0 "message"
    return addonExecution message.display (← arguments.optional 1 "result_type" .null)

end AgentReporting
