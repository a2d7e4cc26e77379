import AgentReporting.Proofs.Json.Tokens
import Mathlib.Data.List.DropRight

/-! # Fractions in JSON

A double is written as a number with a fraction or an exponent, or as a word, and so is read
up to its end.
-/

namespace AgentReporting.Json

/-! ## Parts of a number -/

/-- The digits of a whole number, which begin with zero only if there is nothing else. -/
inductive Whole : List Char → Prop where
  | zero : Whole ['0']
  | digits {c : Char} {cs : List Char} (h0 : c ≠ '0') (hd : ∀ d ∈ c :: cs, d.isDigit = true) :
      Whole (c :: cs)

inductive Fraction : List Char → List Char → Prop where
  | none : Fraction [] []
  | digits {ds : List Char} (hne : ds ≠ []) (hd : ∀ d ∈ ds, d.isDigit = true) :
      Fraction ds ('.' :: ds)

inductive Exponent : List Char → Prop where
  | none : Exponent []
  | digits {sign : Char} {ds : List Char} (hs : sign = '+' ∨ sign = '-') (hne : ds ≠ [])
      (hd : ∀ d ∈ ds, d.isDigit = true) : Exponent ('e' :: sign :: ds)

variable {ds cs es rest : List Char}

theorem Whole.read (h : Whole ds) (hr : ∀ c ∈ rest.head?, c.isDigit = false) :
    wholeDigits? (ds ++ rest) = some (ds, rest) := by
  cases h with
  | zero => rfl
  | digits h0 hd =>
    obtain ⟨hc, hcs⟩ := List.forall_mem_cons.mp hd
    exact wholeDigits?_digits hcs hr hc h0

theorem Fraction.read (h : Fraction ds cs) (hr : ∀ c ∈ rest.head?, c.isDigit = false ∧ c ≠ '.') :
    fractionDigits (cs ++ rest) = (ds, rest) := by
  cases h with
  | none =>
    cases rest with
    | nil => rfl
    | cons c rest =>
      rw [List.nil_append, fractionDigits]
      exact fun d more hd => (hr c rfl).2 (List.cons.inj hd).1
  | digits hne hd =>
    obtain ⟨c, more, rfl⟩ := List.exists_cons_of_ne_nil hne
    obtain ⟨hc, hcs⟩ := List.forall_mem_cons.mp hd
    rw [List.cons_append, List.cons_append, fractionDigits, if_pos hc,
      takeWhile_digits hcs fun c h => (hr c h).1, dropWhile_digits hcs fun c h => (hr c h).1]

theorem Exponent.read (h : Exponent es) (hr : Closes rest) :
    exponentChars (es ++ rest) = (es, rest) := by
  cases h with
  | none => exact exponentChars_of_closes hr
  | @digits sign ds hs hne hd =>
    have hr' := isDigit_of_closes hr
    have hempty : ds.isEmpty = false := by simpa using hne
    rcases hs with rfl | rfl
    · simp [exponentChars, takeWhile_digits hd hr', dropWhile_digits hd hr', hempty]
    · simp [exponentChars, takeWhile_digits hd hr', dropWhile_digits hd hr', hempty]

theorem Exponent.exists_value (h : Exponent es) : ∃ e, Decimal.exponent? es = some e := by
  cases h with
  | none => exact ⟨0, rfl⟩
  | @digits sign ds hs hne hd =>
    have hempty : ds.isEmpty = false := by simpa using hne
    have hall : ds.all Char.isDigit = true := List.all_eq_true.mpr hd
    rcases hs with rfl | rfl
    · simp [Decimal.exponent?, Decimal.splitSign, hempty, hall]
    · simp [Decimal.exponent?, Decimal.splitSign, hempty, hall]

theorem Exponent.head (h : Exponent es) (hr : Closes rest) :
    ∀ c ∈ (es ++ rest).head?, c.isDigit = false ∧ c ≠ '.' := by
  cases h with
  | none =>
    intro c hc
    rcases hr c hc with rfl | rfl | rfl <;> decide
  | digits =>
    rintro c ⟨⟩
    decide

theorem Fraction.head (h : Fraction ds cs) (hr : ∀ c ∈ rest.head?, c.isDigit = false ∧ c ≠ '.') :
    ∀ c ∈ (cs ++ rest).head?, c.isDigit = false := by
  cases h with
  | none => exact fun c hc => (hr c hc).1
  | digits =>
    rintro c ⟨⟩
    rfl

theorem Whole.exists_cons (h : Whole ds) : ∃ c cs, ds = c :: cs ∧ c.isDigit = true := by
  cases h with
  | zero => exact ⟨'0', [], rfl, rfl⟩
  | digits _ hd => exact ⟨_, _, rfl, hd _ List.mem_cons_self⟩

/-! ## Numbers -/

inductive Fractional : List Char → Prop where
  | mk {whole digits fraction exponent : List Char} (hw : Whole whole)
      (hf : Fraction digits fraction) (he : Exponent exponent)
      (hne : digits ≠ [] ∨ exponent ≠ []) : Fractional (whole ++ fraction ++ exponent)

theorem Fractional.exists_cons (h : Fractional cs) :
    ∃ c rest, cs = c :: rest ∧ c.isDigit = true := by
  obtain ⟨hw, -, -, -⟩ := h
  obtain ⟨c, more, rfl, hc⟩ := hw.exists_cons
  exact ⟨c, _, rfl, hc⟩

theorem Fractional.unsigned (h : Fractional cs) (negative : Bool) :
    ∃ x, ∀ rest, Closes rest → unsigned? negative (cs ++ rest) = some (.float x, rest) := by
  obtain @⟨whole, digits, fraction, exponent, hw, hf, he, hne⟩ := h
  obtain ⟨e, hv⟩ := he.exists_value
  have hempty : (digits.isEmpty && exponent.isEmpty) = false := by
    rw [Bool.and_eq_false_iff]
    simpa using hne
  refine ⟨Decimal.scientific negative (Decimal.digitsOf (whole ++ digits)) (e - digits.length),
    fun rest hr => ?_⟩
  unfold unsigned?
  rw [List.append_assoc, List.append_assoc, hw.read (hf.head (he.head hr))]
  simp only [Option.bind_eq_bind, Option.bind_some, hf.read (he.head hr), he.read hr, hempty,
    Bool.false_eq_true, if_false, hv]
  rfl

theorem Fractional.number (h : Fractional cs) :
    (∃ x, ∀ rest, Closes rest → number? (cs ++ rest) = some (.float x, rest)) ∧
      ∃ x, ∀ rest, Closes rest → number? ('-' :: cs ++ rest) = some (.float x, rest) := by
  refine ⟨?_, h.unsigned true⟩
  obtain ⟨c, more, rfl, hd⟩ := h.exists_cons
  obtain ⟨x, hx⟩ := h.unsigned false
  exact ⟨x, fun rest hr => (number?_of_digit hd (more ++ rest)).trans (hx rest hr)⟩

/-! ## Texts of doubles -/

theorem isDigit_of_mem_zeros {n : ℕ} {d : Char} (h : d ∈ List.replicate n '0') :
    d.isDigit = true := by
  rw [List.eq_of_mem_replicate h]
  rfl

theorem exponentText_exponent (e : ℤ) : Exponent (Decimal.exponentText e) := by
  unfold Decimal.exponentText
  refine .digits ?_ ?_ ?_
  · split <;> simp
  · simp
  · intro d hd
    rcases List.mem_append.mp hd with hz | hd
    · exact isDigit_of_mem_zeros hz
    · exact isDigit_of_mem_digits hd

/-- Digits without the zeros at the end, of a number that is not zero. -/
theorem exists_kept {n : ℕ} (h : n ≠ 0) :
    ∃ c cs, ((Nat.toDigits 10 n).reverse.dropWhile (· == '0')).reverse = c :: cs ∧ c ≠ '0' ∧
      ∀ d ∈ c :: cs, d.isDigit = true := by
  obtain ⟨c, cs, hc, h0⟩ := toDigits_eq_cons h
  have hd : ∀ d ∈ c :: cs, d.isDigit = true := fun d hd => isDigit_of_mem_digits (hc ▸ hd)
  have hp : (c :: cs).rdropWhile (· == '0') <+: c :: cs := List.rdropWhile_prefix _ _
  rw [hc]
  change ∃ d ds, (c :: cs).rdropWhile (· == '0') = d :: ds ∧ _
  cases hk : (c :: cs).rdropWhile (· == '0') with
  | nil =>
    have := List.rdropWhile_eq_nil_iff.mp hk c List.mem_cons_self
    exact absurd (by simpa using this) h0
  | cons d ds =>
    rw [hk] at hp
    obtain rfl := (List.cons_prefix_cons.mp hp).1
    exact ⟨d, ds, rfl, h0, fun e he => hd e (hp.subset he)⟩

section Layout

variable {c : Char} {cs : List Char} (h0 : c ≠ '0') (hd : ∀ d ∈ c :: cs, d.isDigit = true)

include hd

theorem fractional_below (n : ℕ) : Fractional (['0', '.'] ++ List.replicate n '0' ++ c :: cs) := by
  have hf : Fraction (List.replicate n '0' ++ c :: cs)
      ('.' :: (List.replicate n '0' ++ c :: cs)) := by
    refine .digits (by simp) fun d hm => ?_
    rcases List.mem_append.mp hm with hz | hm
    · exact isDigit_of_mem_zeros hz
    · exact hd d hm
  have hn := Fractional.mk .zero hf .none (.inl (by simp))
  simpa using hn

include h0

theorem fractional_above (n k : ℕ) : Fractional ((c :: cs).take (n + 1) ++ List.replicate k '0' ++
    '.' :: if ((c :: cs).drop (n + 1)).isEmpty then ['0'] else (c :: cs).drop (n + 1)) := by
  have hw : Whole ((c :: cs).take (n + 1) ++ List.replicate k '0') := by
    refine .digits h0 fun d (hm : d ∈ (c :: cs).take (n + 1) ++ List.replicate k '0') => ?_
    rcases List.mem_append.mp hm with hm | hz
    · exact hd d (List.mem_of_mem_take hm)
    · exact isDigit_of_mem_zeros hz
  have hf {ds : List Char} (hne : ds ≠ []) (hds : ∀ d ∈ ds, d.isDigit = true) :
      Fractional ((c :: cs).take (n + 1) ++ List.replicate k '0' ++ '.' :: ds) := by
    have hn := Fractional.mk hw (.digits hne hds) .none (.inl hne)
    rwa [List.append_nil] at hn
  split
  · exact hf (by simp) fun d hm => @isDigit_of_mem_zeros 1 d hm
  · exact hf (by simp_all) fun d hm => hd d (List.mem_of_mem_drop hm)

theorem fractional_power {es : List Char} (he : Exponent es) (hne : es ≠ []) :
    Fractional (match c :: cs with
      | [] => ['0']
      | [d] => d :: es
      | d :: ds => d :: '.' :: ds ++ es) := by
  have hw : Whole [c] := .digits h0 fun d hm => hd d (by simp_all)
  cases cs with
  | nil => exact .mk hw .none he (.inr hne)
  | cons d ds =>
    have hf := Fraction.digits (List.cons_ne_nil d ds) (List.forall_mem_cons.mp hd).2
    exact .mk hw hf he (.inr hne)

end Layout

theorem fractional_text {s : Decimal.Scientific} (h : s.digits ≠ 0) : Fractional s.text := by
  obtain ⟨c, cs, hk, h0, hd⟩ := exists_kept h
  unfold Decimal.Scientific.text
  simp only [hk]
  split
  · split
    · exact fractional_below hd _
    · exact fractional_above h0 hd _ _
  · exact fractional_power h0 hd (exponentText_exponent _) (by simp [Decimal.exponentText])

theorem digits_ne_zero_of_onGrid? {b : Decimal.Binary} (hb : b.mantissa ≠ 0) {exponent : ℤ}
    {s : Decimal.Scientific} (h : Decimal.onGrid? b exponent = some s) : s.digits ≠ 0 := by
  unfold Decimal.onGrid? at h
  extract_lets quarter scale unit value low high readsBack below above gapBelow gapAbove at h
  have hscale : 0 < scale :=
    Nat.mul_pos (Nat.pow_pos (by decide)) (Nat.pow_pos (by decide))
  have hlow : 0 < low := by
    refine Nat.mul_pos ?_ hscale
    split <;> omega
  have hzero : readsBack 0 = false := by
    simp only [readsBack, Nat.zero_mul, Nat.le_zero, Nat.not_lt_zero, decide_false, Bool.false_and,
      Nat.ne_of_gt hlow, ite_self]
  have hbelow : readsBack below = true → below ≠ 0 := fun hr hz => by
    rw [hz, hzero] at hr
    cases hr
  have habove : above ≠ 0 := Nat.succ_ne_zero below
  split at h
  · cases h
  · cases h
    exact hbelow ‹_›
  · cases h
    exact habove
  · split at h
    · cases h
      exact hbelow ‹_›
    · cases h
      exact habove

theorem digits_shortest_ne_zero {b : Decimal.Binary} (hb : b.mantissa ≠ 0) :
    (Decimal.shortest b).digits ≠ 0 := by
  unfold Decimal.shortest
  dsimp only
  cases hf : (List.range 17).findSome? fun (n : ℕ) =>
      Decimal.onGrid? b (Decimal.leadingExponent b - n) with
  | none => exact hb
  | some s =>
    obtain ⟨n, -, hn⟩ := List.exists_of_findSome?_eq_some hf
    exact digits_ne_zero_of_onGrid? hb hn

inductive Written : List Char → Prop where
  | word {word : String} (h : word = "NaN" ∨ word = "Infinity" ∨ word = "-Infinity") :
      Written word.toList
  | positive {cs : List Char} (h : Fractional cs) : Written cs
  | negative {cs : List Char} (h : Fractional cs) : Written ('-' :: cs)

theorem written_floatText (x : Float) : Written (floatText x) := by
  unfold floatText Decimal.floatChars
  cases Decimal.decode x with
  | nan => exact @Written.word "NaN" (.inl rfl)
  | infinite negative =>
    cases negative with
    | false => exact @Written.word "Infinity" (.inr (.inl rfl))
    | true => exact @Written.word "-Infinity" (.inr (.inr rfl))
  | finite negative b =>
    have hzero : Fraction ['0'] ['.', '0'] :=
      .digits (List.cons_ne_nil _ _) fun d hm => @isDigit_of_mem_zeros 1 d hm
    have hf : Fractional
        (if b.mantissa = 0 then ['0', '.', '0'] else (Decimal.shortest b).text) := by
      split
      · exact .mk .zero hzero .none (.inl (List.cons_ne_nil _ _))
      · exact fractional_text (digits_shortest_ne_zero ‹_›)
    cases negative with
    | false => exact .positive hf
    | true => exact .negative hf

end AgentReporting.Json
