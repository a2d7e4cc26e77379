import AgentReporting.Fault

/-! # Copies of values

A copy of a value goes through all of its parts, and fails at the first handle.
-/

namespace AgentReporting.Value

mutual

/-- The kind of the first handle in a value. -/
def handle? : Value → Option String
  | handle kind _ => some kind
  | list items => handleAmong? items
  | dict fields => handleUnder? fields
  | paired v fields => (handle? v).orElse fun _ => handleUnder? fields
  | _ => none

def handleAmong? : List Value → Option String
  | [] => none
  | v :: vs => (handle? v).orElse fun _ => handleAmong? vs

def handleUnder? : List (String × Value) → Option String
  | [] => none
  | (_, v) :: fields => (handle? v).orElse fun _ => handleUnder? fields

end

/-- Why a value cannot be copied, if it cannot. -/
def copyFault? (v : Value) : Option Fault :=
  v.handle?.map Fault.uncopied

end AgentReporting.Value
