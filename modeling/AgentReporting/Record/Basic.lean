import AgentReporting.Value

/-! # Records

A record is a dictionary whose fields are read by their names. A field that is missing
or has another shape than asked for counts as its default.
-/

namespace AgentReporting.Value

def hasField (v : Value) (key : String) : Bool := (v.field? key).isSome

/-- The field as it is, or the default when it is missing. -/
def fieldOr (v : Value) (key : String) (default : Value) : Value := (v.field? key).getD default

def text? : Value → Option String
  | str s => some s
  | _ => none

def textAt? (v : Value) (key : String) : Option String := (v.get key).text?

def textAt (v : Value) (key : String) (default : String := "") : String :=
  (v.textAt? key).getD default

def flagAt (v : Value) (key : String) (default : Bool := false) : Bool :=
  ((v.field? key).map truthy).getD default

def wholeAt (v : Value) (key : String) (default : Int) : Int :=
  ((v.field? key).bind whole?).getD default

def itemsOf : Value → List Value
  | list items => items
  | _ => []

def itemsAt (v : Value) (key : String) : List Value := (v.get key).itemsOf

/-- The entries of a dictionary. -/
def entries (v : Value) : Entries Value := v.fields?.getD []

def entriesAt (v : Value) (key : String) : Entries Value := (v.get key).entries

end AgentReporting.Value
