import AgentReporting.Text.Split

/-! # SHA-1

Structural keys are the SHA-1 digests of the JSON text of a command. The message
is padded to whole blocks of 64 bytes, and each block is folded into the state.
-/

namespace AgentReporting.Digest

structure State where
  a : UInt32
  b : UInt32
  c : UInt32
  d : UInt32
  e : UInt32

def initial : State :=
  ⟨0x67452301, 0xEFCDAB89, 0x98BADCFE, 0x10325476, 0xC3D2E1F0⟩

def rotateLeft (x : UInt32) (n : UInt32) : UInt32 :=
  x <<< n ||| x >>> (32 - n)

/-- Big-endian bytes of the low `width` bytes of `n`. -/
def bytesOf (width n : Nat) : List UInt8 :=
  (List.range width).map fun i => UInt8.ofNat (n / Nat.pow 256 (width - 1 - i))

/-- The message, a one bit, zeros up to eight bytes short of a block, and its length in bits. -/
def pad (message : List UInt8) : List UInt8 :=
  let length := message.length
  message ++ 0x80 :: List.replicate ((119 - length % 64) % 64) 0 ++ bytesOf 8 (8 * length)

def wordsOf : List UInt8 → List UInt32
  | a :: b :: c :: d :: rest =>
    (a.toUInt32 <<< 24 ||| b.toUInt32 <<< 16 ||| c.toUInt32 <<< 8 ||| d.toUInt32) :: wordsOf rest
  | _ => []

/-- Extends the newest-first words of a block by `n` words. -/
def extend : Nat → List UInt32 → List UInt32
  | 0, ws => ws
  | n + 1, ws =>
    let w (i : Nat) := ws.getD i 0
    extend n (rotateLeft (w 2 ^^^ w 7 ^^^ w 13 ^^^ w 15) 1 :: ws)

def mix (round : Nat) (b c d : UInt32) : UInt32 × UInt32 :=
  if round < 20 then (b &&& c ||| (~~~b &&& d), 0x5A827999)
  else if round < 40 then (b ^^^ c ^^^ d, 0x6ED9EBA1)
  else if round < 60 then (b &&& c ||| b &&& d ||| c &&& d, 0x8F1BBCDC)
  else (b ^^^ c ^^^ d, 0xCA62C1D6)

def step (s : State) (word : UInt32 × Nat) : State :=
  let (f, k) := mix word.2 s.b s.c s.d
  ⟨rotateLeft s.a 5 + f + s.e + k + word.1, s.a, rotateLeft s.b 30, s.c, s.d⟩

def compress (s : State) (block : List UInt32) : State :=
  let t := ((extend 64 block.reverse).reverse.zipIdx).foldl step s
  ⟨s.a + t.a, s.b + t.b, s.c + t.c, s.d + t.d, s.e + t.e⟩

/-- Folds whole blocks of sixteen words; `blocks` is their number. -/
def absorb : Nat → State → List UInt32 → State
  | 0, s, _ => s
  | blocks + 1, s, words => absorb blocks (compress s (words.take 16)) (words.drop 16)

def sha1Bytes (message : List UInt8) : List Char :=
  let words := wordsOf (pad message)
  let s := absorb (words.length / 16) initial words
  [s.a, s.b, s.c, s.d, s.e].flatMap fun word => Text.paddedDigits 16 8 word.toNat

/-- The digest of the UTF-8 bytes of a text, in hexadecimal. -/
def sha1 (text : String) : String :=
  String.ofList (sha1Bytes text.toUTF8.toList)

end AgentReporting.Digest
