import AgentReporting.Decimal.Shortest
import AgentReporting.Text.Split
import AgentReporting.Value

/-! # JSON text of a value

Items are separated by a comma and a blank, everything outside ASCII is escaped
in UTF-16 units, and live objects are written as their text. Only a dictionary
with a key that is no text has no written form. A value may be nested as deeply as it is: an
interpreter gives up at some depth, which is left out here.
-/

namespace AgentReporting.Json

def unicodeEscape (unit : Nat) : List Char :=
  '\\' :: 'u' :: Text.paddedDigits 16 4 unit

/-- One character between double quotes. -/
def escapeChar (c : Char) : List Char :=
  if c = '"' then ['\\', '"']
  else if c = '\\' then ['\\', '\\']
  else if c = '\n' then ['\\', 'n']
  else if c = '\r' then ['\\', 'r']
  else if c = '\t' then ['\\', 't']
  else if c = '\x0c' then ['\\', 'f']
  else if c = '\x08' then ['\\', 'b']
  else if 0x20 ≤ c.toNat && c.toNat < 0x7F then [c]
  else if c.toNat < 0x10000 then unicodeEscape c.toNat
  else
    let rest := c.toNat - 0x10000
    unicodeEscape (0xD800 + rest / 0x400) ++ unicodeEscape (0xDC00 + rest % 0x400)

def stringText (s : String) : List Char :=
  '"' :: s.toList.flatMap escapeChar ++ ['"']

def intText (n : Int) : List Char :=
  if n < 0 then '-' :: Nat.toDigits 10 n.natAbs else Nat.toDigits 10 n.natAbs

def floatText (x : Float) : List Char :=
  Decimal.floatChars ⟨"NaN", "Infinity"⟩ x

mutual

def text : Value → List Char
  | .null => "null".toList
  | .bool b => (if b then "true" else "false").toList
  | .int n => intText n
  | .float x => floatText x
  | .str s => stringText s
  | .list items => '[' :: itemsText items ++ [']']
  | .dict fields => '{' :: fieldsText fields ++ ['}']
  | .paired _ _ => []
  | .object s => stringText s
  | .handle _ s => stringText s
  | .exception s => stringText s

def itemsText : List Value → List Char
  | [] => []
  | [v] => text v
  | v :: vs => text v ++ ',' :: ' ' :: itemsText vs

def fieldsText : List (String × Value) → List Char
  | [] => []
  | [(k, v)] => stringText k ++ ':' :: ' ' :: text v
  | (k, v) :: fields => stringText k ++ ':' :: ' ' :: text v ++ ',' :: ' ' :: fieldsText fields

end

mutual

/-- Whether every key at every depth is a text. -/
def encodable : Value → Bool
  | .list items => allEncodable items
  | .dict fields => fieldsEncodable fields
  | .paired _ _ => false
  | _ => true

def allEncodable : List Value → Bool
  | [] => true
  | v :: vs => encodable v && allEncodable vs

def fieldsEncodable : List (String × Value) → Bool
  | [] => true
  | (_, v) :: fields => encodable v && fieldsEncodable fields

end

/-- The written form of a value, if it has one. -/
def encode? (v : Value) : Option String :=
  if encodable v then some (String.ofList (text v)) else none

/-- The entries in the order of their keys' code points. -/
def sortEntries (fields : List (String × Value)) : List (String × Value) :=
  fields.mergeSort fun a b => a.1 ≤ b.1

mutual

/-- The value with the keys of every dictionary in order. -/
def sortKeys : Value → Value
  | .list items => .list (sortKeysAll items)
  | .dict fields => .dict (sortEntries (sortKeysFields fields))
  | .paired v fields => .paired v fields
  | v => v

def sortKeysAll : List Value → List Value
  | [] => []
  | v :: vs => sortKeys v :: sortKeysAll vs

def sortKeysFields : List (String × Value) → List (String × Value)
  | [] => []
  | (k, v) :: fields => (k, sortKeys v) :: sortKeysFields fields

end

end AgentReporting.Json
