import AgentReporting.Decimal.Binary

/-! # Shortest decimal text

A double is written with the fewest digits that read back as the same double,
the nearest of those. Exponents from -4 to 15 are written positionally.
-/

namespace AgentReporting.Decimal

/-- `digits * 10 ^ exponent`. -/
structure Scientific where
  digits : Nat
  exponent : Int

/-- The exponent of the first digit of a positive number. -/
def leadingExponent (b : Binary) : Int :=
  let scaled :=
    b.mantissa * Nat.pow 10 400 * Nat.pow 2 b.exponent.toNat / Nat.pow 2 (-b.exponent).toNat
  (Nat.toDigits 10 scaled).length - 401

/-- The multiple of `10 ^ exponent` nearest to `b` among those that read back as `b`. -/
def onGrid? (b : Binary) (exponent : Int) : Option Scientific :=
  let quarter := b.exponent - 2
  let scale := Nat.pow 2 quarter.toNat * Nat.pow 10 (-exponent).toNat
  let unit := Nat.pow 10 exponent.toNat * Nat.pow 2 (-quarter).toNat
  let value := 4 * b.mantissa * scale
  let low := (4 * b.mantissa - if b.atPower then 1 else 2) * scale
  let high := (4 * b.mantissa + 2) * scale
  let readsBack (d : Nat) : Bool :=
    if b.mantissa % 2 = 0 then low ≤ d * unit && d * unit ≤ high
    else low < d * unit && d * unit < high
  let below := value / unit
  let above := below + 1
  let gapBelow := value - below * unit
  let gapAbove := above * unit - value
  match readsBack below, readsBack above with
  | false, false => none
  | true, false => some ⟨below, exponent⟩
  | false, true => some ⟨above, exponent⟩
  | true, true =>
    if gapBelow < gapAbove || gapBelow = gapAbove && below % 2 = 0 then some ⟨below, exponent⟩
    else some ⟨above, exponent⟩

def shortest (b : Binary) : Scientific :=
  let lead := leadingExponent b
  ((List.range 17).findSome? fun (n : Nat) => onGrid? b (lead - n)).getD ⟨b.mantissa, b.exponent⟩

/-- Exponents in `positionalFrom ≤ e < positionalBelow` are written without an exponent mark. -/
structure Layout where
  positionalFrom : Int
  positionalBelow : Int
  exponentDigits : Nat

def layout : Layout := ⟨-4, 16, 2⟩

def exponentText (e : Int) : List Char :=
  let digits := Nat.toDigits 10 e.natAbs
  ['e', if e < 0 then '-' else '+'] ++
    List.replicate (layout.exponentDigits - digits.length) '0' ++ digits

/-- Writes a positive number whose shortest form is known. -/
def Scientific.text (s : Scientific) : List Char :=
  let digits := Nat.toDigits 10 s.digits
  let kept := (digits.reverse.dropWhile (· == '0')).reverse
  let lead := s.exponent + digits.length - 1
  if layout.positionalFrom ≤ lead && lead < layout.positionalBelow then
    if lead < 0 then ['0', '.'] ++ List.replicate (-lead - 1).toNat '0' ++ kept
    else
      let whole := lead.toNat + 1
      let fraction := kept.drop whole
      kept.take whole ++ List.replicate (whole - kept.length) '0' ++
        '.' :: (if fraction.isEmpty then ['0'] else fraction)
  else
    match kept with
    | [] => ['0']
    | [d] => d :: exponentText lead
    | d :: ds => d :: '.' :: ds ++ exponentText lead

/-- Words for the values that are not finite numbers. -/
structure Words where
  nan : String
  infinity : String

def floatChars (words : Words) (x : Float) : List Char :=
  match decode x with
  | .nan => words.nan.toList
  | .infinite negative => (if negative then ['-'] else []) ++ words.infinity.toList
  | .finite negative b =>
    (if negative then ['-'] else []) ++
      if b.mantissa = 0 then ['0', '.', '0'] else (shortest b).text

/-- The text of a double as messages show it. -/
def floatText (x : Float) : String :=
  String.ofList (floatChars ⟨"nan", "inf"⟩ x)

end AgentReporting.Decimal
