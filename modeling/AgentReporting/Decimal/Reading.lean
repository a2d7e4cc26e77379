import AgentReporting.Decimal.Binary
import AgentReporting.Text.Classes
import AgentReporting.Text.Split

/-! # Reading numbers

Blanks around a number are dropped, digits of every script count, and a single
underscore may stand between two digits.
-/

namespace AgentReporting.Decimal

/-- Longest run of digits that is read as a whole number. -/
def maxDigits : Nat := 4300

/-- The value of a list of decimal digits, most significant first. -/
def ofDigits (ds : List Nat) : Nat :=
  ds.foldl (fun n d => 10 * n + d) 0

/-- The digits of every script become ASCII digits. -/
def plainDigit (c : Char) : Char :=
  match Text.digitValue? c with
  | some d => Char.ofNat (0x30 + d)
  | none => c

/-- Removes underscores that stand between digits; any other underscore is refused. -/
def withoutUnderscores? (afterDigit : Bool) : List Char → Option (List Char)
  | [] => some []
  | '_' :: c :: cs =>
    if afterDigit && c.isDigit then (withoutUnderscores? true cs).map (c :: ·) else none
  | '_' :: [] => none
  | c :: cs => (withoutUnderscores? c.isDigit cs).map (c :: ·)

def plainNumber? (s : String) : Option (List Char) :=
  withoutUnderscores? false ((Text.trimBy Text.isBlank s.toList).map plainDigit)

def splitSign : List Char → Bool × List Char
  | '-' :: cs => (true, cs)
  | '+' :: cs => (false, cs)
  | cs => (false, cs)

def digitsOf (cs : List Char) : List Nat :=
  cs.map fun c => c.toNat - 0x30

/-- Reads a run of ASCII digits that is neither empty nor too long. -/
def natOfDigits? (cs : List Char) : Option Nat :=
  if cs.isEmpty || maxDigits < cs.length || !cs.all Char.isDigit then none
  else some (ofDigits (digitsOf cs))

/-- Reads a whole number. -/
def int? (s : String) : Option Int := do
  let cs ← plainNumber? s
  let (negative, digits) := splitSign cs
  let n ← natOfDigits? digits
  return if negative then -n else n

/-- The double nearest to `digits * 10 ^ exponent`. -/
def scientific (negative : Bool) (digits : List Nat) (exponent : Int) : Float :=
  let significant := digits.dropWhile (· == 0)
  let size : Int := significant.length + exponent
  if significant.isEmpty || size < -400 then nearest negative 0 1
  else if 400 < size then nearest negative (Nat.pow 10 400) 1
  else
    let value := ofDigits significant
    nearest negative (value * Nat.pow 10 exponent.toNat) (Nat.pow 10 (-exponent).toNat)

/-- Reads an optional exponent, which must end the text. -/
def exponent? : List Char → Option Int
  | [] => some 0
  | c :: cs =>
    if c = 'e' ∨ c = 'E' then
      let (negative, digits) := splitSign cs
      if digits.isEmpty || !digits.all Char.isDigit then none
      else
        let size := digits.dropWhile (· == '0')
        -- beyond six digits every number is zero or infinite
        let n : Nat := if 18 < size.length then Nat.pow 10 18 else ofDigits (digitsOf size)
        some (if negative then -n else n)
    else none

def lowerAscii (cs : List Char) : String :=
  String.ofList (cs.map Char.toLower)

/-- Reads a number with an optional fraction and exponent, or a word for a value that is none. -/
def float? (s : String) : Option Float := do
  let cs ← plainNumber? s
  let (negative, body) := splitSign cs
  let word := lowerAscii body
  if word = "inf" ∨ word = "infinity" then
    return nearest negative (Nat.pow 10 400) 1
  if word = "nan" then
    return Float.ofBits 0x7FF8000000000000
  let whole := body.takeWhile Char.isDigit
  let (fraction, rest) := match body.dropWhile Char.isDigit with
    | '.' :: rest => (rest.takeWhile Char.isDigit, rest.dropWhile Char.isDigit)
    | rest => ([], rest)
  if whole.isEmpty && fraction.isEmpty then none
  let e ← exponent? rest
  return scientific negative (digitsOf (whole ++ fraction)) (e - fraction.length)

end AgentReporting.Decimal
