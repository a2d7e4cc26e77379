import AgentReporting.Value

/-! # Parts of a value

Requests without a fallback for live objects can only be written when every part of a
value has a written form of its own.
-/

namespace AgentReporting.Value

mutual

/-- Whether a property holds of a value and of everything in it. -/
def everyPart (p : Value → Bool) (v : Value) : Bool :=
  p v && match v with
    | list items => everyItem p items
    | dict fields => everyField p fields
    | paired w fields => everyPart p w && everyField p fields
    | _ => true

def everyItem (p : Value → Bool) : List Value → Bool
  | [] => true
  | v :: vs => everyPart p v && everyItem p vs

def everyField (p : Value → Bool) : List (String × Value) → Bool
  | [] => true
  | (_, v) :: fields => everyPart p v && everyField p fields

end

/-- Whether JSON itself has such a value. -/
def isPlainPart : Value → Bool
  | object _ => false
  | handle _ _ => false
  | exception _ => false
  | paired _ _ => false
  | _ => true

def isFinitePart : Value → Bool
  | float x => x.isFinite
  | _ => true

/-- Whether the value is plain data. -/
def isPlain (v : Value) : Bool := everyPart isPlainPart v

/-- Whether all numbers in the value are finite. -/
def isFinite (v : Value) : Bool := everyPart isFinitePart v

end AgentReporting.Value
