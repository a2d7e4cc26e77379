import AgentReporting.Decimal.Reading
import AgentReporting.Trail

/-! # Versions

A version is the list of numbers before its first dash. Versions are compared
number by number, the shorter one continued by zeros.
-/

namespace AgentReporting

abbrev Version := List Nat

namespace Version

/-- The maximal runs of decimal digits of any script, each with its values. -/
def digitRuns : List Char → List (List Nat)
  | [] => []
  | c :: cs =>
    match Text.digitValue? c with
    | none => digitRuns cs
    | some d =>
      match cs with
      | [] => [[d]]
      | c' :: _ =>
        match Text.isDecimal c', digitRuns cs with
        | true, run :: runs => (d :: run) :: runs
        | _, runs => [d] :: runs

/-- A number of a version, unless it has too many digits. -/
def number? (digits : List Nat) : Option Nat :=
  if Decimal.maxDigits < digits.length then none else some (Decimal.ofDigits digits)

def tooLong (digits : List Nat) : Fault :=
  .mismatch .value
    (s!"Exceeds the limit ({Decimal.maxDigits} digits) for integer string conversion: " ++
      s!"value has {digits.length} digits; use sys.set_int_max_str_digits() to increase the limit")

/-- Reads a version; a text without a number is refused. -/
def ofString (s : String) : Except Fault Version := do
  let runs := digitRuns (s.toList.takeWhile (· != '-'))
  if runs.isEmpty then throw (.invalidVersion s)
  runs.mapM fun run =>
    match number? run with
    | some n => .ok n
    | none => .error (tooLong run)

/-- Whether the first version is at least the second one, both continued by zeros. -/
def atLeast : Version → Version → Bool
  | _, [] => true
  | [], m :: ms => m == 0 && atLeast [] ms
  | n :: ns, m :: ms => m < n || n == m && atLeast ns ms

/-- Whether a version text is at least `minimum`; an unreadable one is not, and is logged. -/
def textAtLeast {σ : Type} (version minimum : String) : Act σ Bool := do
  if version.isEmpty then return false
  let readings : Except Fault (Version × Version) := do
    let current ← ofString version
    let required ← ofString minimum
    return (current, required)
  match readings with
  | .ok (current, required) => return atLeast current required
  | .error fault =>
    Act.error fault.shown
    return false

/-- The same question about data of any shape. -/
def valueAtLeast {σ : Type} (version : Value) (minimum : String) : Attempt σ Bool := do
  match version with
  | .str text => .lift (textAtLeast text minimum)
  | v => if v.truthy then throw (.noAttribute v "split") else return false

end Version

end AgentReporting
