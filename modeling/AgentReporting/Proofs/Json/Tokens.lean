import AgentReporting.Json.Printer
import AgentReporting.Json.Reader
import Mathlib.Tactic.IntervalCases

/-! # Texts and numbers in JSON

A text is read back from what is written between its quotes, whatever characters it has. A
whole number is read back from its digits if nothing that could belong to it follows.
-/

namespace AgentReporting.Json

/-! ## Hexadecimal units -/

theorem hexValue?_digitChar {d : ℕ} (h : d < 16) : hexValue? d.digitChar = some d := by
  interval_cases d <;> rfl

theorem digitChar_unquoted {d : ℕ} (h : d < 16) : d.digitChar ≠ '"' ∧ d.digitChar ≠ '\\' := by
  interval_cases d <;> decide

theorem paddedDigits_succ {base width : ℕ} (hb : 1 < base) (hw : 0 < width) (n : ℕ) :
    Text.paddedDigits base (width + 1) n =
      Text.paddedDigits base width (n / base) ++ [(n % base).digitChar] := by
  unfold Text.paddedDigits
  rcases Nat.lt_or_ge n base with h | h
  · obtain ⟨k, rfl⟩ := Nat.exists_eq_add_of_lt hw
    rw [Nat.div_eq_of_lt h, Nat.mod_eq_of_lt h, Nat.toDigits_zero, Nat.toDigits_of_lt_base h]
    simp [List.replicate_succ']
  · rw [Nat.toDigits_of_base_le hb h]
    simp only [List.length_append, List.length_singleton, Nat.add_sub_add_right, List.append_assoc]

theorem unicodeEscape_eq {n : ℕ} (h : n < 0x10000) :
    unicodeEscape n = ['\\', 'u', (n / 16 / 16 / 16).digitChar, (n / 16 / 16 % 16).digitChar,
      (n / 16 % 16).digitChar, (n % 16).digitChar] := by
  have hd : Text.paddedDigits 16 1 (n / 16 / 16 / 16) = [(n / 16 / 16 / 16).digitChar] := by
    rw [Text.paddedDigits, Nat.toDigits_of_lt_base (by omega)]
    rfl
  rw [unicodeEscape, paddedDigits_succ (by decide) (by decide),
    paddedDigits_succ (by decide) (by decide), paddedDigits_succ (by decide) (by decide), hd]
  rfl

theorem unit?_digits {n : ℕ} (h : n < 0x10000) :
    unit? (n / 16 / 16 / 16).digitChar (n / 16 / 16 % 16).digitChar (n / 16 % 16).digitChar
      (n % 16).digitChar = some n := by
  have hn : ((n / 16 / 16 / 16 * 16 + n / 16 / 16 % 16) * 16 + n / 16 % 16) * 16 + n % 16 = n := by
    omega
  unfold unit?
  rw [hexValue?_digitChar (by omega), hexValue?_digitChar (by omega),
    hexValue?_digitChar (by omega), hexValue?_digitChar (by omega)]
  exact congrArg some hn

/-! ## Characters -/

/-- How a character is written between quotes, and the pieces that are read there. -/
inductive Escapes (c : Char) : List Char → List Piece → Prop where
  | plain (hq : c ≠ '"') (hb : c ≠ '\\') (h : 0x20 ≤ c.toNat) : Escapes c [c] [.char c]
  | short {e : Char} (h : simpleEscape? e = some c) : Escapes c ['\\', e] [.char c]
  | unit (h : c.toNat < 0x10000) : Escapes c (unicodeEscape c.toNat) [.unit c.toNat]
  | pair {high low : ℕ} (hh : isHighSurrogate high = true) (hl : isLowSurrogate low = true)
      (h : joinSurrogates high low = c) :
      Escapes c (unicodeEscape high ++ unicodeEscape low) [.unit high, .unit low]

theorem toNat_valid (c : Char) : c.toNat < 0xD800 ∨ 0xDFFF < c.toNat ∧ c.toNat < 0x110000 := c.valid

theorem joinSurrogates_eq {c : Char} (h : 0x10000 ≤ c.toNat) :
    let rest := c.toNat - 0x10000
    joinSurrogates (0xD800 + rest / 0x400) (0xDC00 + rest % 0x400) = c := by
  intro rest
  have hn : 0x10000 + (0xD800 + rest / 0x400 - 0xD800) * 0x400 + (0xDC00 + rest % 0x400 - 0xDC00) =
      c.toNat := by omega
  rw [joinSurrogates, hn, Char.ofNat_toNat]

theorem escapeChar_escapes (c : Char) : ∃ pieces, Escapes c (escapeChar c) pieces := by
  unfold escapeChar
  split_ifs with hq hb hn hr ht hf hbs hp hu
  · exact ⟨_, .short (by rw [hq]; rfl)⟩
  · exact ⟨_, .short (by rw [hb]; rfl)⟩
  · exact ⟨_, .short (by rw [hn]; rfl)⟩
  · exact ⟨_, .short (by rw [hr]; rfl)⟩
  · exact ⟨_, .short (by rw [ht]; rfl)⟩
  · exact ⟨_, .short (by rw [hf]; rfl)⟩
  · exact ⟨_, .short (by rw [hbs]; rfl)⟩
  · rw [Bool.and_eq_true, decide_eq_true_iff] at hp
    exact ⟨_, .plain hq hb hp.1⟩
  · exact ⟨_, .unit hu⟩
  · have hc : 0x10000 ≤ c.toNat := Nat.le_of_not_lt hu
    have hv := toNat_valid c
    refine ⟨_, .pair ?_ ?_ (joinSurrogates_eq hc)⟩
    · simp [isHighSurrogate]
      omega
    · simp [isLowSurrogate]
      omega

/-- Two surrogates are read as the one character that they make together. -/
theorem joinPieces_pair {high low : ℕ} (hh : isHighSurrogate high = true)
    (hl : isLowSurrogate low = true) (rest : List Piece) :
    joinPieces (.unit high :: .unit low :: rest) = joinSurrogates high low :: joinPieces rest := by
  rw [joinPieces, hh, hl]
  rfl

theorem joinPieces_unit {n : ℕ} (hn : isHighSurrogate n = false) (rest : List Piece) :
    joinPieces (.unit n :: rest) = charOfUnit n :: joinPieces rest := by
  cases rest with
  | nil => rfl
  | cons piece rest =>
    cases piece with
    | char c => rfl
    | unit low =>
      rw [joinPieces, hn]
      rfl

theorem cutQuote?_unicodeEscape {n : ℕ} (h : n < 0x10000) (rest : List Char) :
    cutQuote? (unicodeEscape n ++ rest) =
      (cutQuote? rest).map fun (body, rest) => (unicodeEscape n ++ body, rest) := by
  have hd (m : ℕ) : (m % 16).digitChar ≠ '"' ∧ (m % 16).digitChar ≠ '\\' :=
    digitChar_unquoted (Nat.mod_lt m (by decide))
  have hf : (n / 16 / 16 / 16).digitChar ≠ '"' ∧ (n / 16 / 16 / 16).digitChar ≠ '\\' :=
    digitChar_unquoted (by omega)
  rw [unicodeEscape_eq h]
  simp [cutQuote?, hd, hf, Function.comp_def]

theorem pieces?_unicodeEscape {n : ℕ} (h : n < 0x10000) (rest : List Char) :
    pieces? (unicodeEscape n ++ rest) = (pieces? rest).map (.unit n :: ·) := by
  rw [unicodeEscape_eq h]
  simp only [List.cons_append, List.nil_append, pieces?, unit?_digits h, Option.bind_eq_bind,
    Option.bind_some]
  cases pieces? rest <;> rfl

namespace Escapes

variable {c : Char} {cs : List Char} {pieces : List Piece}

theorem cutQuote?_append (h : Escapes c cs pieces) (rest : List Char) :
    cutQuote? (cs ++ rest) = (cutQuote? rest).map fun (body, rest) => (cs ++ body, rest) := by
  cases h with
  | plain hq hb => simp [cutQuote?, hb]
  | short => simp [cutQuote?]
  | unit h => exact cutQuote?_unicodeEscape h rest
  | pair hh hl =>
    simp only [isHighSurrogate, isLowSurrogate, Bool.and_eq_true, decide_eq_true_iff] at hh hl
    rw [List.append_assoc, cutQuote?_unicodeEscape (by omega), cutQuote?_unicodeEscape (by omega),
      Option.map_map]
    simp [Function.comp_def]

theorem pieces?_append (h : Escapes c cs pieces) (rest : List Char) :
    pieces? (cs ++ rest) = (pieces? rest).map (pieces ++ ·) := by
  cases h with
  | plain hq hb h => simp [pieces?, hb, Nat.not_lt.mpr h]
  | @short e h =>
    have hu : e ≠ 'u' := by
      rintro rfl
      cases h
    simp only [List.cons_append, List.nil_append]
    rw [pieces?]
    · rw [h]
      cases pieces? rest <;> rfl
    · simp [hu]
  | unit h => exact pieces?_unicodeEscape h rest
  | pair hh hl =>
    simp only [isHighSurrogate, isLowSurrogate, Bool.and_eq_true, decide_eq_true_iff] at hh hl
    rw [List.append_assoc, pieces?_unicodeEscape (by omega), pieces?_unicodeEscape (by omega),
      Option.map_map]
    rfl

theorem joinPieces_append (h : Escapes c cs pieces) (rest : List Piece) :
    joinPieces (pieces ++ rest) = c :: joinPieces rest := by
  cases h with
  | plain => rfl
  | short => rfl
  | unit h =>
    have hv := toNat_valid c
    have hh : isHighSurrogate c.toNat = false := by simp [isHighSurrogate]; omega
    have hl : isLowSurrogate c.toNat = false := by simp [isLowSurrogate]; omega
    rw [List.singleton_append, joinPieces_unit hh, charOfUnit, hh, hl]
    simp
  | pair hh hl h =>
    rw [← h]
    exact joinPieces_pair hh hl rest

end Escapes

/-! ## Texts -/

theorem string?_escaped (s : String) (rest : List Char) :
    string? (s.toList.flatMap escapeChar ++ '"' :: rest) = some (s, rest) := by
  have hbody (cs : List Char) :
      cutQuote? (cs.flatMap escapeChar ++ '"' :: rest) = some (cs.flatMap escapeChar, rest) ∧
        ∃ pieces, pieces? (cs.flatMap escapeChar) = some pieces ∧ joinPieces pieces = cs := by
    induction cs with
    | nil => exact ⟨rfl, [], rfl, rfl⟩
    | cons c cs ih =>
      obtain ⟨hc, pieces, hp, hj⟩ := ih
      obtain ⟨more, he⟩ := escapeChar_escapes c
      rw [List.flatMap_cons, List.append_assoc, he.cutQuote?_append, he.pieces?_append, hc, hp]
      exact ⟨rfl, more ++ pieces, rfl, by rw [he.joinPieces_append, hj]⟩
  obtain ⟨hc, pieces, hp, hj⟩ := hbody s.toList
  simp only [string?, hc, hp, hj, Option.bind_eq_bind, Option.bind_some, String.ofList_toList]
  rfl

/-! ## Whole numbers -/

/-- Nothing follows, or something that closes what comes before it. -/
def Closes (rest : List Char) : Prop := ∀ c ∈ rest.head?, c = ',' ∨ c = ']' ∨ c = '}'

theorem Closes.nil : Closes [] := fun _ h => nomatch h

theorem Closes.cons {c : Char} (h : c = ',' ∨ c = ']' ∨ c = '}') (rest : List Char) :
    Closes (c :: rest) := fun _ hd => Option.some.inj hd ▸ h

/-- The digits of a positive number begin with none that is zero. -/
theorem toDigits_eq_cons {n : ℕ} (h : n ≠ 0) :
    ∃ c cs, Nat.toDigits 10 n = c :: cs ∧ c ≠ '0' := by
  induction n using Nat.strongRecOn with
  | ind n ih =>
    rcases Nat.lt_or_ge n 10 with hn | hn
    · refine ⟨n.digitChar, [], Nat.toDigits_of_lt_base hn, ?_⟩
      interval_cases n <;> first | contradiction | decide
    · obtain ⟨c, cs, hc, h0⟩ := ih (n / 10) (by omega) (by omega)
      refine ⟨c, cs ++ [(n % 10).digitChar], ?_, h0⟩
      rw [Nat.toDigits_of_base_le (by decide) hn, hc, List.cons_append]

theorem isDigit_of_mem_digits {n : ℕ} {c : Char} (h : c ∈ Nat.toDigits 10 n) : c.isDigit = true :=
  Nat.isDigit_of_mem_toDigits (by decide) (by decide) h

theorem exists_digit_cons (n : ℕ) :
    ∃ c cs, Nat.toDigits 10 n = c :: cs ∧ c.isDigit = true := by
  obtain ⟨c, cs, hc⟩ := List.exists_cons_of_ne_nil (Nat.toDigits_ne_nil : Nat.toDigits 10 n ≠ [])
  exact ⟨c, cs, hc, isDigit_of_mem_digits (hc ▸ List.mem_cons_self)⟩

theorem ne_of_isDigit {c d : Char} (hc : c.isDigit = true) (hd : d.isDigit = false) : c ≠ d := by
  rintro rfl
  exact Bool.false_ne_true (hd.symm.trans hc)

theorem ofDigits_toDigits (n : ℕ) :
    Decimal.ofDigits (Decimal.digitsOf (Nat.toDigits 10 n)) = n := by
  rw [Decimal.ofDigits, Decimal.digitsOf, List.foldl_map]
  exact Nat.ofDigitChars_eq_foldl.symm.trans (Nat.ofDigitChars_toDigits (by decide) (by decide))

theorem natOfDigits?_toDigits {n : ℕ} (h : n < 10 ^ Decimal.maxDigits) :
    Decimal.natOfDigits? (Nat.toDigits 10 n) = some n := by
  have hlen : (Nat.toDigits 10 n).length ≤ Decimal.maxDigits :=
    (Nat.length_toDigits_le_iff (by decide) (by decide)).mpr h
  have hall : (Nat.toDigits 10 n).all Char.isDigit = true :=
    List.all_eq_true.mpr fun _ => isDigit_of_mem_digits
  have hne : (Nat.toDigits 10 n).isEmpty = false := by simp
  rw [Decimal.natOfDigits?, hne, hall, ofDigits_toDigits]
  simp [Nat.not_lt.mpr hlen]

def unsigned? (negative : Bool) (body : List Char) : Option (Value × List Char) := do
  let (whole, rest) ← wholeDigits? body
  let (fraction, rest) := fractionDigits rest
  let (exponent, rest) := exponentChars rest
  if fraction.isEmpty && exponent.isEmpty then
    let n ← Decimal.natOfDigits? whole
    return (.int (if negative then -n else n), rest)
  else
    let e ← Decimal.exponent? exponent
    let digits := Decimal.digitsOf (whole ++ fraction)
    return (.float (Decimal.scientific negative digits (e - fraction.length)), rest)

theorem number?_minus (cs : List Char) : number? ('-' :: cs) = unsigned? true cs := rfl

theorem number?_of_digit {c : Char} (hd : c.isDigit = true) (cs : List Char) :
    number? (c :: cs) = unsigned? false (c :: cs) := by
  have hm : c ≠ '-' := ne_of_isDigit hd rfl
  unfold number?
  split
  rename_i negative body hs
  split at hs
  · exact absurd (List.cons.inj ‹_›).1 hm
  · cases hs
    rfl

section Digits

variable {digits rest : List Char} (hd : ∀ c ∈ digits, c.isDigit = true)
    (hr : ∀ c ∈ rest.head?, c.isDigit = false)

include hd hr

theorem takeWhile_digits : (digits ++ rest).takeWhile Char.isDigit = digits := by
  rw [List.takeWhile_append_of_pos hd]
  cases rest with
  | nil => exact List.append_nil digits
  | cons c rest => rw [List.takeWhile_cons, hr c rfl]; exact List.append_nil digits

theorem dropWhile_digits : (digits ++ rest).dropWhile Char.isDigit = rest := by
  rw [List.dropWhile_append_of_pos hd]
  cases rest with
  | nil => rfl
  | cons c rest => rw [List.dropWhile_cons, hr c rfl]; rfl

theorem wholeDigits?_digits {c : Char} (hc : c.isDigit = true) (h0 : c ≠ '0') :
    wholeDigits? (c :: (digits ++ rest)) = some (c :: digits, rest) := by
  rw [wholeDigits?, if_pos hc, takeWhile_digits hd hr, dropWhile_digits hd hr]
  exact fun h => h0 h

end Digits

section Closed

variable {rest : List Char} (hr : Closes rest)

include hr

theorem isDigit_of_closes (c : Char) (h : c ∈ rest.head?) : c.isDigit = false := by
  rcases hr c h with rfl | rfl | rfl <;> rfl

theorem wholeDigits?_toDigits (n : ℕ) :
    wholeDigits? (Nat.toDigits 10 n ++ rest) = some (Nat.toDigits 10 n, rest) := by
  rcases Nat.eq_zero_or_pos n with rfl | hn
  · rfl
  · obtain ⟨c, cs, hc, h0⟩ := toDigits_eq_cons (Nat.ne_of_gt hn)
    have hd : ∀ d ∈ c :: cs, d.isDigit = true := fun d hd => isDigit_of_mem_digits (hc ▸ hd)
    obtain ⟨hdc, hds⟩ := List.forall_mem_cons.mp hd
    rw [hc]
    exact wholeDigits?_digits hds (isDigit_of_closes hr) hdc h0

theorem fractionDigits_of_closes : fractionDigits rest = ([], rest) := by
  cases rest with
  | nil => rfl
  | cons c rest => rcases hr c rfl with rfl | rfl | rfl <;> rfl

theorem exponentChars_of_closes : exponentChars rest = ([], rest) := by
  cases rest with
  | nil => rfl
  | cons c rest => rcases hr c rfl with rfl | rfl | rfl <;> rfl

theorem unsigned?_digits {n : ℕ} (hn : n < 10 ^ Decimal.maxDigits) (negative : Bool) :
    unsigned? negative (Nat.toDigits 10 n ++ rest) =
      some (.int (if negative then -n else n), rest) := by
  unfold unsigned?
  simp only [wholeDigits?_toDigits hr n, Option.bind_eq_bind, Option.bind_some,
    fractionDigits_of_closes hr, exponentChars_of_closes hr, List.isEmpty_nil, Bool.and_self,
    if_true,
    natOfDigits?_toDigits hn]
  rfl

theorem number?_intText {n : ℤ} (hn : n.natAbs < 10 ^ Decimal.maxDigits) :
    number? (intText n ++ rest) = some (.int n, rest) := by
  unfold intText
  split
  · rw [List.cons_append, number?_minus, unsigned?_digits hr hn, if_pos rfl,
      Int.ofNat_natAbs_of_nonpos (by omega), Int.neg_neg]
  · obtain ⟨c, cs, hc, hd⟩ := exists_digit_cons n.natAbs
    have hread := unsigned?_digits hr hn false
    rw [hc, List.cons_append] at hread ⊢
    rw [number?_of_digit hd, hread, if_neg (by decide), Int.natAbs_of_nonneg (by omega)]

end Closed

theorem word?_of_digit {c : Char} (hd : c.isDigit = true) (cs : List Char) :
    word? (c :: cs) = none ∧ word? ('-' :: c :: cs) = none := by
  have hn (d : Char) (h : d.isDigit = false) : d ≠ c := (ne_of_isDigit hd h).symm
  constructor
  · simp only [word?, List.findSome?_cons, String.reduceToList, List.isPrefixOf_cons_cons]
    simp [hn 'n' rfl, hn 't' rfl, hn 'f' rfl, hn 'N' rfl, hn 'I' rfl, hn '-' rfl]
  · simp only [word?, List.findSome?_cons, String.reduceToList, List.isPrefixOf_cons_cons]
    simp [hn 'I' rfl]

theorem word?_intText (n : ℤ) (rest : List Char) : word? (intText n ++ rest) = none := by
  obtain ⟨c, cs, hc, hd⟩ := exists_digit_cons n.natAbs
  unfold intText
  rw [hc]
  split
  · exact (word?_of_digit hd (cs ++ rest)).2
  · exact (word?_of_digit hd (cs ++ rest)).1

end AgentReporting.Json
