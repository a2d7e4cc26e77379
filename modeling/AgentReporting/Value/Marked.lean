import AgentReporting.Decimal.Reading
import AgentReporting.Value.Display

/-! # Values as marked data

Floats, live objects, exceptions and foreign keys have no form of their own in JSON. A
dictionary with one marked key stands for each of them.
-/

namespace AgentReporting.Value

def floatMark : String := "$float"

def objectMark : String := "$obj"

def exceptionMark : String := "$exc"

def pairMark : String := "$badkey"

/-- The value that a dictionary with one key stands for, if that key is a mark. -/
def unmarkField? (key : String) (v : Value) : Option Value :=
  if key = floatMark then
    match v with
    | str text => (Decimal.float? text).map float
    | _ => none
  else if key = objectMark then some (object v.display)
  else if key = exceptionMark then some (exception v.display)
  else if key = pairMark then some (paired v [])
  else none

mutual

/-- Replaces marked data by what it stands for. -/
def unmarked : Value → Value
  | list items => list (unmarkedItems items)
  | dict fields =>
    match unmarkedFields fields with
    | [(key, v)] => (unmarkField? key v).getD (dict [(key, v)])
    | fields => dict fields
  | v => v

def unmarkedItems : List Value → List Value
  | [] => []
  | v :: vs => unmarked v :: unmarkedItems vs

def unmarkedFields : List (String × Value) → List (String × Value)
  | [] => []
  | (k, v) :: fields => (k, unmarked v) :: unmarkedFields fields

end

mutual

/-- Writes what JSON lacks as marked data. -/
def marked : Value → Value
  | float x => dict [(floatMark, str (Decimal.floatText x))]
  | object text => dict [(objectMark, str text)]
  | handle _ text => dict [(objectMark, str text)]
  | exception text => dict [(exceptionMark, str text)]
  | paired v fields => dict ((pairMark, marked v) :: markedFields fields)
  | dict fields => dict (markedFields fields)
  | list items => list (markedItems items)
  | v => v

def markedItems : List Value → List Value
  | [] => []
  | v :: vs => marked v :: markedItems vs

def markedFields : List (String × Value) → List (String × Value)
  | [] => []
  | (k, v) :: fields => (k, marked v) :: markedFields fields

end

end AgentReporting.Value
