import AgentReporting.Addon.Conversion

/-! # Addon actions

An action is declared by its fields: inputs go to the Agent, outputs come back.
The answer of the Agent is data of any shape, and is read entry by entry.
-/

namespace AgentReporting.Addon

inductive Direction where
  | input
  | output
  | plain
deriving DecidableEq

structure Field where
  name : String
  direction : Direction
  type : FieldType
  value : Value

structure Action where
  name : String
  guid : String
  className : String
  fields : List Field

namespace Action

def namesOf (direction : Direction) (action : Action) : List String :=
  (action.fields.filter (·.direction == direction)).map (·.name)

def inputs (action : Action) : List String := action.namesOf .input

def outputs (action : Action) : List String := action.namesOf .output

/-- All fields with their values. -/
def values (action : Action) : Entries Value :=
  action.fields.map fun field => (field.name, field.value)

/-- Assigns a field. -/
def assign (action : Action) (name : String) (value : Value) : Action :=
  { action with
    fields := action.fields.map fun field =>
      if field.name == name then { field with value } else field }

def typeOf (action : Action) (name : String) : FieldType :=
  ((action.fields.find? (·.name == name)).map (·.type)).getD .any

/-- An action with some fields given; a name that is no field is refused. -/
def withValues (action : Action) (values : Entries Value) : Except Fault Action :=
  match values.find? fun entry => !(action.fields.any (·.name == entry.1)) with
  | some (name, _) =>
    .error (.mismatch .type s!"{action.name} has no field {Text.quoted name}")
  | none => .ok (values.foldl (fun action entry => action.assign entry.1 entry.2) action)

/-- The input fields with their values. -/
def parameters (action : Action) : Entries Value :=
  (action.fields.filter (·.direction == .input)).map fun field => (field.name, field.value)

/-- What the Agent needs to run the action, on an element if a locator is given. -/
def descriptor (action : Action) (locator : Option (Value × Value)) : Except Fault Value :=
  if action.guid.isEmpty || action.className.isEmpty then .error (.unnamedAction action.name)
  else .ok (.dict ([("guid", .str action.guid), ("className", .str action.className),
    ("parameters", .dict action.parameters)] ++
      match locator with
      | some (strategy, value) => [("by", .dict [("using", strategy), ("value", value)])]
      | none => []))

end Action

/-- An entry of the answer. -/
structure Result where
  name : Value
  value : Value
  isOutput : Bool

structure Answer where
  resultType : Value
  message : Value
  results : List Result

namespace Answer

def passed (answer : Answer) : Bool :=
  Value.same answer.resultType (.str "Passed")

/-- An entry counts when it is a dictionary with a name. -/
def resultOf? (item : Value) : Option Result :=
  if item.isDict && (item.get "name").truthy then
    some ⟨item.get "name", item.get "value", (item.get "output").truthy⟩
  else none

/-- The items to go through; only lists hold entries, and numbers cannot be gone through. -/
def itemsOf (value : Value) : Except Fault (List Value) :=
  match value with
  | .list items => .ok items
  | .str _ => .ok []
  | v => if v.truthy && !v.isDict then .error (.notIterable v) else .ok []

def ofValue (data : Value) : Except Fault Answer :=
  if data.isDict then do
    let items ← itemsOf (data.get "fields")
    let resultType := data.get "resultType"
    return {
      resultType := if resultType.truthy then resultType else .str "Failed"
      message := data.get "message"
      results := items.filterMap resultOf? }
  else .error (.noAttribute data "get")

end Answer

end AgentReporting.Addon
