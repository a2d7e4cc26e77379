/-! # Base 64

Three bytes are written as four letters. A shorter group at the end is filled up with
equals signs.
-/

namespace AgentReporting.Text.Base64

def alphabet : List Char :=
  "ABCDEFGHIJKLMNOPQRSTUVWXYZabcdefghijklmnopqrstuvwxyz0123456789+/".toList

def letter (n : Nat) : Char := alphabet.getD n '='

/-- The four letters of three bytes. -/
def group (a b c : UInt8) : List Char :=
  let n := a.toNat * Nat.pow 2 16 + b.toNat * Nat.pow 2 8 + c.toNat
  [letter (n / Nat.pow 2 18), letter (n / Nat.pow 2 12 % 64), letter (n / Nat.pow 2 6 % 64),
    letter (n % 64)]

def encode : List UInt8 → List Char
  | [] => []
  | [a] => (group a 0 0).take 2 ++ ['=', '=']
  | [a, b] => (group a b 0).take 3 ++ ['=']
  | a :: b :: c :: rest => group a b c ++ encode rest

end AgentReporting.Text.Base64
