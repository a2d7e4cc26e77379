import AgentReporting.Config
import AgentReporting.Fault

/-! # Output values of addon actions

The Agent sends output values as texts. They are converted to the declared type
of their field, where that is a truth value or a number; other values stay.
-/

namespace AgentReporting.Addon

inductive BaseType where
  | int
  | float
  | bool
  | text
  | any
  | other
deriving DecidableEq

/-- The declared type of a field: its alternatives, not counting an absent value. -/
structure FieldType where
  alternatives : List BaseType
deriving DecidableEq

namespace FieldType

def any : FieldType := ⟨[.any]⟩

/-- The type to convert to; a choice of several types is none. -/
def target (type : FieldType) : BaseType :=
  match type.alternatives with
  | [t] => t
  | _ => .other

end FieldType

def refused (text typeName : String) : Fault :=
  .invalidArgument s!"Failed to convert [{text}] to {typeName}"

/-- Converts a value to a declared type. -/
def convert (type : FieldType) (value : Value) : Except Fault Value :=
  match value with
  | .str text =>
    match type.target with
    | .bool =>
      .ok (.bool (Decimal.lowerAscii (Text.trimBy Text.isBlank text.toList) == "true"))
    | .int =>
      match Decimal.int? text with
      | some n => .ok (.int n)
      | none => .error (refused text "int")
    | .float =>
      match Decimal.float? text with
      | some x => .ok (.float x)
      | none => .error (refused text "float")
    | _ => .ok value
  | value => .ok value

end AgentReporting.Addon
