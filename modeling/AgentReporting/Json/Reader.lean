import AgentReporting.Decimal.Reading
import AgentReporting.Value

/-! # Reading JSON text

The reader also takes `NaN` and the infinities, keeps the last of equal keys, and
refuses control characters inside texts, a mark of byte order and trailing text. A value may
be nested as deeply as it is: an interpreter gives up at some depth, which is left out here.
-/

namespace AgentReporting.Json

def isSpace (c : Char) : Bool :=
  c = ' ' || c = '\t' || c = '\n' || c = '\r'

def skipSpace (cs : List Char) : List Char :=
  cs.dropWhile isSpace

def hexValue? (c : Char) : Option Nat :=
  if c.isDigit then some (c.toNat - 0x30)
  else if 'a' ≤ c && c ≤ 'f' then some (c.toNat - 0x61 + 10)
  else if 'A' ≤ c && c ≤ 'F' then some (c.toNat - 0x41 + 10)
  else none

/-- The unit that four hexadecimal digits write. -/
def unit? (a b c d : Char) : Option Nat := do
  let a ← hexValue? a
  let b ← hexValue? b
  let c ← hexValue? c
  let d ← hexValue? d
  return ((a * 16 + b) * 16 + c) * 16 + d

/-- A text is written in characters and in escaped UTF-16 units. -/
inductive Piece where
  | char (c : Char)
  | unit (n : Nat)

def isHighSurrogate (unit : Nat) : Bool := 0xD800 ≤ unit && unit < 0xDC00

def isLowSurrogate (unit : Nat) : Bool := 0xDC00 ≤ unit && unit < 0xE000

/-- The character of a pair of surrogate units. -/
def joinSurrogates (high low : Nat) : Char :=
  Char.ofNat (0x10000 + (high - 0xD800) * 0x400 + (low - 0xDC00))

/-- The character of one unit; a surrogate that stands alone has none. -/
def charOfUnit (unit : Nat) : Char :=
  if isHighSurrogate unit || isLowSurrogate unit then '\uFFFD' else Char.ofNat unit

/-- The characters of a text, each pair of surrogate units making one. -/
def joinPieces : List Piece → List Char
  | [] => []
  | .char c :: rest => c :: joinPieces rest
  | .unit high :: .unit low :: rest =>
    if isHighSurrogate high && isLowSurrogate low then joinSurrogates high low :: joinPieces rest
    else charOfUnit high :: joinPieces (.unit low :: rest)
  | .unit n :: rest => charOfUnit n :: joinPieces rest

def simpleEscape? : Char → Option Char
  | '"' => some '"'
  | '\\' => some '\\'
  | '/' => some '/'
  | 'b' => some '\x08'
  | 'f' => some '\x0c'
  | 'n' => some '\n'
  | 'r' => some '\r'
  | 't' => some '\t'
  | _ => none

/-- The pieces that stand between two quotes. -/
def pieces? : List Char → Option (List Piece)
  | [] => some []
  | '\\' :: 'u' :: a :: b :: c :: d :: rest => do
    let n ← unit? a b c d
    return .unit n :: (← pieces? rest)
  | '\\' :: e :: rest => do
    let c ← simpleEscape? e
    return .char c :: (← pieces? rest)
  | c :: rest =>
    if c = '\\' || c.toNat < 0x20 then none
    else (pieces? rest).map (.char c :: ·)

/-- Cuts behind the closing quote; an escaped quote does not close. -/
def cutQuote? : List Char → Option (List Char × List Char)
  | [] => none
  | '"' :: rest => some ([], rest)
  | '\\' :: e :: rest => (cutQuote? rest).map fun (body, rest) => ('\\' :: e :: body, rest)
  | c :: rest => (cutQuote? rest).map fun (body, rest) => (c :: body, rest)

/-- Reads the rest of a text whose opening quote has been read. -/
def string? (cs : List Char) : Option (String × List Char) := do
  let (body, rest) ← cutQuote? cs
  let pieces ← pieces? body
  return (String.ofList (joinPieces pieces), rest)

/-- Splits the digits of a whole number off; a leading zero stands alone. -/
def wholeDigits? : List Char → Option (List Char × List Char)
  | '0' :: rest => some (['0'], rest)
  | c :: rest =>
    if c.isDigit then some (c :: rest.takeWhile Char.isDigit, rest.dropWhile Char.isDigit) else none
  | [] => none

/-- Splits a fraction off, if one follows. -/
def fractionDigits : List Char → List Char × List Char
  | '.' :: c :: rest =>
    if c.isDigit then (c :: rest.takeWhile Char.isDigit, rest.dropWhile Char.isDigit)
    else ([], '.' :: c :: rest)
  | cs => ([], cs)

/-- Splits an exponent off, if one follows. -/
def exponentChars (cs : List Char) : List Char × List Char :=
  match cs with
  | e :: rest =>
    if e = 'e' ∨ e = 'E' then
      let (sign, digits) := match rest with
        | '+' :: more => (['+'], more)
        | '-' :: more => (['-'], more)
        | more => ([], more)
      if (digits.takeWhile Char.isDigit).isEmpty then ([], cs)
      else (e :: sign ++ digits.takeWhile Char.isDigit, digits.dropWhile Char.isDigit)
    else ([], cs)
  | [] => ([], [])

/-- Reads a number, which is a whole number unless it has a fraction or an exponent. -/
def number? (cs : List Char) : Option (Value × List Char) := do
  let (negative, body) := match cs with
    | '-' :: rest => (true, rest)
    | _ => (false, cs)
  let (whole, rest) ← wholeDigits? body
  let (fraction, rest) := fractionDigits rest
  let (exponent, rest) := exponentChars rest
  if fraction.isEmpty && exponent.isEmpty then
    let n ← Decimal.natOfDigits? whole
    return (.int (if negative then -n else n), rest)
  else
    let e ← Decimal.exponent? exponent
    let digits := Decimal.digitsOf (whole ++ fraction)
    return (.float (Decimal.scientific negative digits (e - fraction.length)), rest)

def nan : Float := Float.ofBits 0x7FF8000000000000

def infinity (negative : Bool) : Float := Decimal.nearest negative (Nat.pow 10 400) 1

/-- Reads one of the words for a value. -/
def word? (cs : List Char) : Option (Value × List Char) :=
  let words : List (String × Value) :=
    [("null", .null), ("true", .bool true), ("false", .bool false), ("NaN", .float nan),
      ("Infinity", .float (infinity false)), ("-Infinity", .float (infinity true))]
  words.findSome? fun (word, v) =>
    if word.toList.isPrefixOf cs then some (v, cs.drop word.length) else none

mutual

/-- Reads a value that starts at the first character; `fuel` bounds the nesting and the length. -/
def value? (fuel : Nat) (cs : List Char) : Option (Value × List Char) :=
  match fuel with
  | 0 => none
  | fuel + 1 =>
    match cs with
    | '"' :: rest => (string? rest).map fun (s, rest) => (.str s, rest)
    | '[' :: rest =>
      match skipSpace rest with
      | ']' :: rest => some (.list [], rest)
      | rest => (items? fuel rest).map fun (items, rest) => (.list items, rest)
    | '{' :: rest =>
      match skipSpace rest with
      | '}' :: rest => some (.dict [], rest)
      | rest => (fields? fuel rest).map fun (fields, rest) => (.dict (Entries.ofList fields), rest)
    | _ =>
      match word? cs with
      | some found => some found
      | none => number? cs

/-- Reads items up to the closing bracket. -/
def items? (fuel : Nat) (cs : List Char) : Option (List Value × List Char) :=
  match fuel with
  | 0 => none
  | fuel + 1 => do
    let (v, rest) ← value? fuel cs
    match skipSpace rest with
    | ']' :: rest => return ([v], rest)
    | ',' :: rest =>
      let (vs, rest) ← items? fuel (skipSpace rest)
      return (v :: vs, rest)
    | _ => none

/-- Reads entries up to the closing brace. -/
def fields? (fuel : Nat) (cs : List Char) : Option (List (String × Value) × List Char) :=
  match fuel with
  | 0 => none
  | fuel + 1 =>
    match cs with
    | '"' :: rest => do
      let (k, rest) ← string? rest
      match skipSpace rest with
      | ':' :: rest =>
        let (v, rest) ← value? fuel (skipSpace rest)
        match skipSpace rest with
        | '}' :: rest => return ([(k, v)], rest)
        | ',' :: rest =>
          let (more, rest) ← fields? fuel (skipSpace rest)
          return ((k, v) :: more, rest)
        | _ => none
      | _ => none
    | _ => none

end

/-- Reads a whole text. -/
def read? (s : String) : Option Value :=
  match value? (2 * s.length + 2) (skipSpace s.toList) with
  | some (v, rest) => if (skipSpace rest).isEmpty then some v else none
  | none => none

end AgentReporting.Json
