import AgentReporting.Decimal.Binary
import AgentReporting.Entries

/-! # Dynamic values

Command parameters, results and Agent answers are data of any shape. Besides what
JSON can hold they may contain live objects and exceptions, known by their text. Handles
are live objects of which no copy can be made. Values that contain themselves are left out.
-/

namespace AgentReporting

inductive Value where
  | null
  | bool (b : Bool)
  | int (n : Int)
  | float (x : Float)
  | str (s : String)
  | list (items : List Value)
  | dict (fields : List (String × Value))
  /-- A dictionary whose first key is a pair of numbers, followed by text keys. -/
  | paired (value : Value) (fields : List (String × Value))
  | object (text : String)
  /-- A live object that cannot be copied, such as a lock or an open file. -/
  | handle (kind text : String)
  | exception (text : String)
deriving Inhabited

namespace Value

/-- Whether a condition takes the value for true. -/
def truthy : Value → Bool
  | null => false
  | bool b => b
  | int n => n != 0
  | float x => x != 0
  | str s => !s.isEmpty
  | list items => !items.isEmpty
  | dict fields => !fields.isEmpty
  | _ => true

/-- The entries with text keys, if the value is a dictionary. -/
def fields? : Value → Option (Entries Value)
  | dict fields => some fields
  | paired _ fields => some fields
  | _ => none

/-- The value under `key`, if the value is a dictionary that has it. -/
def field? (v : Value) (key : String) : Option Value :=
  v.fields?.bind fun fields => Entries.get? fields key

/-- Writes the given entries into a dictionary; anything else stays as it is. -/
def withFields (v : Value) (fields : Entries Value) : Value :=
  match v with
  | dict old => dict (Entries.merge old fields)
  | paired key old => paired key (Entries.merge old fields)
  | v => v

/-- A dictionary without the given keys; anything else stays as it is. -/
def without (v : Value) (keys : List String) : Value :=
  let kept (fields : Entries Value) := fields.filter fun entry => !keys.contains entry.1
  match v with
  | dict fields => dict (kept fields)
  | paired key fields => paired key (kept fields)
  | v => v

/-- The value under `key`, null when there is none. -/
def get (v : Value) (key : String) : Value :=
  (v.field? key).getD null

def isText : Value → Bool
  | str _ => true
  | _ => false

def isDict (v : Value) : Bool :=
  v.fields?.isSome

/-- The whole number a number equals; truth values are 1 and 0. -/
def whole? : Value → Option Int
  | bool b => some (if b then 1 else 0)
  | int n => some n
  | float x => Decimal.wholeOf? x
  | _ => none

/-- Equality of the values that have no parts. Numbers are compared across their kinds. -/
def leafEq (sameNan : Bool) (a b : Value) : Bool :=
  match a, b with
  | null, null => true
  | str s, str t => s == t
  | float x, float y => x == y || sameNan && x.isNaN && y.isNaN
  | a, b =>
    match a.whole?, b.whole? with
    | some m, some n => m == n
    | _, _ => false

mutual

/-- Equality up to the kind of a number and the order of keys. Live objects and exceptions
equal nothing; `sameNan` says whether a NaN is taken for the very same object. -/
def eq (sameNan : Bool) : Value → Value → Bool
  | list xs, list ys => eqItems sameNan xs ys
  | dict xs, dict ys => xs.length == ys.length && eqFields sameNan xs ys
  | paired v xs, paired w ys => eq sameNan v w && xs.length == ys.length && eqFields sameNan xs ys
  | a, b => leafEq sameNan a b

def eqItems (sameNan : Bool) : List Value → List Value → Bool
  | [], [] => true
  | x :: xs, y :: ys => eq sameNan x y && eqItems sameNan xs ys
  | _, _ => false

/-- Every entry of the first dictionary is in the second one. -/
def eqFields (sameNan : Bool) : List (String × Value) → List (String × Value) → Bool
  | [], _ => true
  | (k, v) :: xs, ys =>
    (match ys.lookup k with
      | some w => eq sameNan v w
      | none => false) && eqFields sameNan xs ys

end

/-- Equality of two values that were read separately. -/
def same (a b : Value) : Bool := eq false a b

def ofOption (o : Option Value) : Value := o.getD null

def ofText? : Option String → Value
  | some s => str s
  | none => null

end Value

end AgentReporting
