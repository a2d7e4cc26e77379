import AgentReporting.Decimal.Shortest
import AgentReporting.Text.Quoted
import AgentReporting.Value

/-! # How messages show a value

A text is shown as it is, and quoted inside a list or dictionary. Live objects
and exceptions are shown by their own text.
-/

namespace AgentReporting.Value

def intText (n : Int) : String :=
  toString n

mutual

/-- The value as part of a list or dictionary. -/
def shown : Value → String
  | null => "None"
  | bool b => if b then "True" else "False"
  | int n => intText n
  | float x => Decimal.floatText x
  | str s => Text.quoted s
  | list items => "[" ++ shownItems items ++ "]"
  | dict fields => "\x7b" ++ shownFields fields ++ "\x7d"
  | paired v [] => "\x7b(1, 2): " ++ shown v ++ "\x7d"
  | paired v fields => "\x7b(1, 2): " ++ shown v ++ ", " ++ shownFields fields ++ "\x7d"
  | object text => text
  | handle _ text => text
  | exception text => text

def shownItems : List Value → String
  | [] => ""
  | [v] => shown v
  | v :: vs => shown v ++ ", " ++ shownItems vs

def shownFields : List (String × Value) → String
  | [] => ""
  | [(k, v)] => Text.quoted k ++ ": " ++ shown v
  | (k, v) :: fields => Text.quoted k ++ ": " ++ shown v ++ ", " ++ shownFields fields

end

/-- The value as a message shows it. -/
def display : Value → String
  | str s => s
  | v => shown v

/-- The kind of a value, as messages about a missing operation name it. -/
def kindName : Value → String
  | null => "NoneType"
  | bool _ => "bool"
  | int _ => "int"
  | float _ => "float"
  | str _ => "str"
  | list _ => "list"
  | dict _ => "dict"
  | paired _ _ => "dict"
  | object _ => "object"
  | handle kind _ => kind
  | exception _ => "Exception"

end AgentReporting.Value
