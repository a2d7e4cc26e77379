/-! # Doubles as exact numbers

A finite double is `mantissa * 2 ^ exponent`. Decoding gives both parts, and
encoding rounds an exact quotient to the nearest double, ties to even.
-/

namespace AgentReporting.Decimal

/-- A finite double without its sign. -/
structure Binary where
  mantissa : Nat
  exponent : Int
  /-- The next smaller double is at half the distance of the next larger one. -/
  atPower : Bool

inductive Decoded where
  | nan
  | infinite (negative : Bool)
  | finite (negative : Bool) (magnitude : Binary)

def decode (x : Float) : Decoded :=
  let bits : Nat := x.toBits.toNat
  let negative := Nat.pow 2 63 ≤ bits
  let biased : Nat := bits / Nat.pow 2 52 % Nat.pow 2 11
  let fraction : Nat := bits % Nat.pow 2 52
  if biased = 2047 then
    if fraction = 0 then .infinite negative else .nan
  else if biased = 0 then .finite negative ⟨fraction, -1074, false⟩
  else
    .finite negative
      ⟨Nat.pow 2 52 + fraction, (biased : Int) - 1075, fraction = 0 && 1 < biased⟩

/-- `num / den` rounded to a whole number, a half going to the even neighbour. -/
def roundQuotient (num den : Nat) : Nat :=
  let whole := num / den
  let twice := 2 * (num % den)
  if twice < den then whole
  else if den < twice then whole + 1
  else whole + whole % 2

/-- The bits of the double nearest to `num / den`. -/
def nearestBits (num den : Nat) : Nat :=
  if num = 0 then 0 else
  let exponent : Int := max (-1074) ((num.log2 : Int) - den.log2 - 53)
  let mantissa :=
    roundQuotient (num * Nat.pow 2 (-exponent).toNat) (den * Nat.pow 2 exponent.toNat)
  let (mantissa, exponent) :=
    if mantissa < Nat.pow 2 53 then (mantissa, exponent)
    else
      (roundQuotient (num * Nat.pow 2 (-(exponent + 1)).toNat)
        (den * Nat.pow 2 (exponent + 1).toNat), exponent + 1)
  let (mantissa, exponent) :=
    if mantissa < Nat.pow 2 53 then (mantissa, exponent) else (Nat.pow 2 52, exponent + 1)
  if 971 < exponent then 2047 * Nat.pow 2 52
  else if mantissa < Nat.pow 2 52 then mantissa
  else (exponent + 1075).toNat * Nat.pow 2 52 + (mantissa - Nat.pow 2 52)

/-- The double nearest to `num / den`, with the given sign. -/
def nearest (negative : Bool) (num den : Nat) : Float :=
  Float.ofBits (UInt64.ofNat (nearestBits num den + if negative then Nat.pow 2 63 else 0))

/-- The whole part of a finite double, toward zero, and whether nothing was cut off. -/
def truncate? (x : Float) : Option (Int × Bool) :=
  match decode x with
  | .finite negative ⟨m, e, _⟩ =>
    let size := if 0 ≤ e then m * Nat.pow 2 e.toNat else m / Nat.pow 2 (-e).toNat
    let exact := 0 ≤ e || m % Nat.pow 2 (-e).toNat == 0
    some (if negative then -(size : Int) else size, exact)
  | _ => none

/-- The whole number that a finite double is, if it is one. -/
def wholeOf? (x : Float) : Option Int :=
  (truncate? x).bind fun (n, exact) => if exact then some n else none

end AgentReporting.Decimal
