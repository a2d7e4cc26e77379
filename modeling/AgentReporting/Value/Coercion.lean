import AgentReporting.Decimal.Reading
import AgentReporting.Fault

/-! # Reading data of any shape

The Agent's answers are taken as they come: a number may be written as a text, a
dictionary as a list of pairs, and whatever has items can be gone through. What does
not fit is a mismatch.
-/

namespace AgentReporting.Value

/-- The whole number that a value stands for; what follows the point is cut off. -/
def wholeNumber : Value → Except Fault Int
  | bool b => .ok (if b then 1 else 0)
  | int n => .ok n
  | float x =>
    match Decimal.truncate? x with
    | some (n, _) => .ok n
    | none =>
      if x.isNaN then .error (.mismatch .value "cannot convert float NaN to integer")
      else .error (.mismatch .overflow "cannot convert float infinity to integer")
  | str s =>
    match Decimal.int? s with
    | some n => .ok n
    | none => .error (.mismatch .value s!"invalid literal for int() with base 10: {Text.quoted s}")
  | v => .error (.mismatch .type
      s!"int() argument must be a string, a bytes-like object or a real number, not '{v.kindName}'")

/-- The items of a value: those of a list, the characters of a text, the keys of a dictionary. -/
def iterated : Value → Except Fault (List Value)
  | list items => .ok items
  | str s => .ok (s.toList.map fun c => str c.toString)
  | dict fields => .ok (fields.map fun entry => str entry.1)
  | v => .error (.notIterable v)

/-- A value as the key of a dictionary. -/
def asKey : Value → Except Fault String
  | str s => .ok s
  | null => .ok "null"
  | bool b => .ok (if b then "true" else "false")
  | int n => .ok (toString n)
  | float x => .ok (Decimal.floatText x)
  | object text => .ok text
  | handle _ text => .ok text
  | exception text => .ok text
  | v => .error (.mismatch .type s!"unhashable type: '{v.kindName}'")

/-- The pair that an item of the given position stands for. -/
def asPair (position : Nat) (item : Value) : Except Fault (String × Value) :=
  match iterated item with
  | .error _ => .error (.mismatch .type
      s!"cannot convert dictionary update sequence element #{position} to a sequence")
  | .ok [key, value] => (asKey key).map fun key => (key, value)
  | .ok parts => .error (.mismatch .value
      (s!"dictionary update sequence element #{position} has length {parts.length}; 2 is required"))

/-- The dictionary that a value stands for; nothing at all is an empty one. -/
def asEntries (v : Value) : Except Fault (Entries Value) :=
  match v with
  | dict fields => .ok fields
  | v =>
    if !v.truthy then .ok []
    else do
      let items ← iterated v
      let pairs ← items.zipIdx.mapM fun (item, position) => asPair position item
      return Entries.ofList pairs

/-- The dictionary that a value stands for, which may have a key that is no text. -/
def asDict (v : Value) : Except Fault Value :=
  if v.isDict then .ok v else (asEntries v).map dict

/-- Whether a value is a positive number; only numbers can be compared with one. -/
def isPositive (v : Value) : Except Fault Bool :=
  match v with
  | bool b => .ok b
  | int n => .ok (0 < n)
  | float x => .ok (0 < x)
  | v => .error (.mismatch .type
      s!"'>' not supported between instances of '{v.kindName}' and 'int'")

end AgentReporting.Value
