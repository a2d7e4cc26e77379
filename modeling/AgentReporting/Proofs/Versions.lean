import AgentReporting.Proofs.Json.Tokens
import AgentReporting.Proofs.Kit.Escaping
import Mathlib.Data.List.Forall2
import Mathlib.Order.PiLex

/-! # The order of versions

A version goes on with zeros for ever, and versions are compared at the first place where they
differ. As this does not depend on their lengths, the versions that are written out are ordered
like sequences of numbers, up to the zeros at their ends.
-/

namespace AgentReporting.Version

variable {v w : Version}

/-! ## Sequences of numbers -/

/-- The numbers of a version, continued by zeros for ever and compared from the first one on. -/
def extended (v : Version) : Lex (ℕ → ℕ) := toLex fun i => v.getD i 0

theorem toLex_lt_iff (f g : ℕ → ℕ) : toLex f < toLex g ↔
    f 0 < g 0 ∨ f 0 = g 0 ∧ toLex (fun i => f (i + 1)) < toLex fun i => g (i + 1) := by
  constructor
  · rintro ⟨i, heq, hlt⟩
    cases i with
    | zero => exact .inl hlt
    | succ i => exact .inr ⟨heq 0 i.succ_pos, i, fun j hj => heq (j + 1) (Nat.succ_lt_succ hj), hlt⟩
  · rintro (hlt | ⟨h0, i, heq, hlt⟩)
    · exact ⟨0, fun j hj => absurd hj j.not_lt_zero, hlt⟩
    · refine ⟨i + 1, fun j hj => ?_, hlt⟩
      cases j with
      | zero => exact h0
      | succ j => exact heq j (Nat.lt_of_succ_lt_succ hj)

theorem toLex_le_iff (f g : ℕ → ℕ) : toLex f ≤ toLex g ↔
    f 0 < g 0 ∨ f 0 = g 0 ∧ toLex (fun i => f (i + 1)) ≤ toLex fun i => g (i + 1) := by
  refine not_lt.symm.trans ((not_congr (toLex_lt_iff g f)).trans ?_)
  rw [not_or, not_lt, not_and, le_iff_lt_or_eq]
  refine (and_congr_right' (imp_congr_right fun _ => not_lt)).trans ?_
  constructor
  · rintro ⟨hlt | heq, h⟩
    · exact .inl hlt
    · exact .inr ⟨heq, h heq.symm⟩
  · rintro (hlt | ⟨heq, h⟩)
    · exact ⟨.inl hlt, fun heq => absurd heq hlt.ne'⟩
    · exact ⟨.inr heq, fun _ => h⟩

theorem extended_cons_le_iff (n m : ℕ) (v w : Version) :
    extended (n :: v) ≤ extended (m :: w) ↔ n < m ∨ n = m ∧ extended v ≤ extended w :=
  toLex_le_iff _ _

theorem extended_nil_eq : extended [] = extended [0] := by
  refine congrArg toLex (funext fun i => ?_)
  cases i <;> rfl

theorem extended_nil_le (v : Version) : extended [] ≤ extended v :=
  Pi.toLex_monotone fun _ => Nat.zero_le _

theorem atLeast_iff (v w : Version) : atLeast v w = true ↔ extended w ≤ extended v := by
  fun_induction atLeast v w with
  | case1 v => exact iff_of_true rfl (extended_nil_le v)
  | case2 m w ih =>
    rw [extended_nil_eq, extended_cons_le_iff, Bool.and_eq_true, beq_iff_eq, ih]
    simp
  | case3 n v m w ih =>
    rw [extended_cons_le_iff, Bool.or_eq_true, decide_eq_true_iff, Bool.and_eq_true, beq_iff_eq, ih,
      eq_comm]

def SameButZeros (v w : Version) : Prop :=
  ∃ k, v = w ++ List.replicate k 0 ∨ w = v ++ List.replicate k 0

theorem extended_append_zeros (v : Version) (k : ℕ) :
    extended (v ++ List.replicate k 0) = extended v := by
  refine congrArg toLex (funext fun i => ?_)
  rw [List.getD_eq_getElem?_getD, List.getD_eq_getElem?_getD, List.getElem?_append]
  split
  · rfl
  · rename_i hi
    rw [List.getElem?_eq_none (Nat.le_of_not_lt hi), List.getElem?_replicate]
    split <;> rfl

theorem eq_append_zeros (h : extended v = extended w) (hle : v.length ≤ w.length) :
    w = v ++ List.replicate (w.length - v.length) 0 := by
  refine List.ext_getElem (by simp; omega) fun i hi _ => ?_
  have hget : v.getD i 0 = w.getD i 0 := congrFun h i
  rw [List.getD_eq_getElem?_getD, List.getD_eq_getElem?_getD, List.getElem?_eq_getElem hi] at hget
  rw [List.getElem_append]
  split
  · rename_i hv
    rw [List.getElem?_eq_getElem hv] at hget
    exact hget.symm
  · rename_i hv
    rw [List.getElem?_eq_none (Nat.le_of_not_lt hv)] at hget
    rw [List.getElem_replicate]
    exact hget.symm

theorem extended_eq_iff : extended v = extended w ↔ SameButZeros v w := by
  constructor
  · intro h
    rcases Nat.le_total v.length w.length with hle | hle
    · exact ⟨_, .inr (eq_append_zeros h hle)⟩
    · exact ⟨_, .inl (eq_append_zeros h.symm hle)⟩
  · rintro ⟨k, rfl | rfl⟩
    · exact extended_append_zeros w k
    · exact (extended_append_zeros v k).symm

theorem extended_mono (h : List.Forall₂ (· ≤ ·) v w) : extended v ≤ extended w := by
  refine Pi.toLex_monotone fun i => ?_
  induction h generalizing i with
  | nil => exact le_rfl
  | cons hle _ ih =>
    cases i with
    | zero => exact hle
    | succ i => exact ih i

/-! ## Numbers that are written out -/

theorem digitRuns_append {digits rest : List Char} (hne : digits ≠ [])
    (hd : ∀ c ∈ digits, c.isDigit = true) (hr : ∀ c ∈ rest.head?, Text.isDecimal c = false) :
    digitRuns (digits ++ rest) = Decimal.digitsOf digits :: digitRuns rest := by
  induction digits with
  | nil => exact absurd rfl hne
  | cons c digits ih =>
    obtain ⟨hc, hds⟩ := List.forall_mem_cons.mp hd
    rw [List.cons_append, digitRuns, Text.digitValue?_of_isDigit hc]
    cases digits with
    | nil =>
      cases rest with
      | nil => rfl
      | cons next rest =>
        dsimp only [List.nil_append]
        rw [hr next rfl]
        rfl
    | cons next digits =>
      have hnext := Text.isDecimal_of_isDigit (hds next List.mem_cons_self)
      dsimp only [List.cons_append]
      rw [hnext, ← List.cons_append, ih (List.cons_ne_nil _ _) hds]
      rfl

theorem digitRuns_cons_of_none {c : Char} (h : Text.digitValue? c = none) (cs : List Char) :
    digitRuns (c :: cs) = digitRuns cs := by
  rw [digitRuns, h]

def dotted (v : Version) : List Char := ['.'].intercalate (v.map (Nat.toDigits 10))

theorem dotted_singleton (n : ℕ) : dotted [n] = Nat.toDigits 10 n := List.intercalate_singleton

theorem dotted_cons_cons (n m : ℕ) (v : Version) :
    dotted (n :: m :: v) = Nat.toDigits 10 n ++ '.' :: dotted (m :: v) := by
  simp [dotted, List.intercalate_cons_cons]

theorem digitRuns_dotted (v : Version) :
    digitRuns (dotted v) = v.map fun n => Decimal.digitsOf (Nat.toDigits 10 n) := by
  have happend (n : ℕ) {rest : List Char} (hr : ∀ c ∈ rest.head?, Text.isDecimal c = false) :
      digitRuns (Nat.toDigits 10 n ++ rest) =
        Decimal.digitsOf (Nat.toDigits 10 n) :: digitRuns rest :=
    digitRuns_append Nat.toDigits_ne_nil (fun _ => Json.isDigit_of_mem_digits) hr
  induction v with
  | nil => rfl
  | cons n v ih =>
    cases v with
    | nil =>
      rw [dotted_singleton, ← List.append_nil (Nat.toDigits 10 n), happend n (by simp)]
      rfl
    | cons m v =>
      have hdot : ∀ c ∈ ('.' :: dotted (m :: v)).head?, Text.isDecimal c = false := by
        rintro c ⟨⟩
        decide
      rw [dotted_cons_cons, happend n hdot, digitRuns_cons_of_none (by decide), ih]
      rfl

theorem dash_notMem_dotted (v : Version) : '-' ∉ dotted v := by
  have hdigits (n : ℕ) : '-' ∉ Nat.toDigits 10 n := fun h =>
    absurd (Json.isDigit_of_mem_digits h) (by decide)
  induction v with
  | nil => exact List.not_mem_nil
  | cons n v ih =>
    cases v with
    | nil =>
      rw [dotted_singleton]
      exact hdigits n
    | cons m v =>
      rw [dotted_cons_cons]
      simp [hdigits n, ih]

/-- A version as an Agent announces it: its numbers, each short enough to be read, and what may
follow them after a dash. -/
structure Release where
  numbers : Version
  remark : Option String := none
  ne_nil : numbers ≠ []
  short : ∀ n ∈ numbers, (Nat.toDigits 10 n).length ≤ Decimal.maxDigits

namespace Release

def text (release : Release) : String :=
  ".".intercalate (release.numbers.map toString) ++ (release.remark.map ("-" ++ ·)).getD ""

theorem toList_text (release : Release) : release.text.toList = dotted release.numbers ++
    (release.remark.map fun remark => '-' :: remark.toList).getD [] := by
  have hnumbers : (".".intercalate (release.numbers.map toString)).toList =
      dotted release.numbers := by
    simp [dotted, Function.comp_def]
  rw [text, String.toList_append, hnumbers]
  cases release.remark with
  | none => rfl
  | some remark => simp

theorem takeWhile_text (release : Release) :
    release.text.toList.takeWhile (· != '-') = dotted release.numbers := by
  have hall : ∀ c ∈ dotted release.numbers, (c != '-') = true := by
    intro c hc
    simpa using ne_of_mem_of_not_mem hc (dash_notMem_dotted _)
  rw [toList_text, List.takeWhile_append_of_pos hall]
  cases release.remark with
  | none => exact List.append_nil _
  | some remark => simp

theorem mapM_map_eq_ok {α β : Type} {read : β → Except Fault α} {write : α → β} {items : List α}
    (h : ∀ a ∈ items, read (write a) = .ok a) : (items.map write).mapM read = .ok items := by
  induction items with
  | nil => rfl
  | cons a items ih =>
    obtain ⟨ha, hrest⟩ := List.forall_mem_cons.mp h
    rw [List.map_cons, List.mapM_cons, ha, ih hrest]
    rfl

theorem ofString_text (release : Release) : ofString release.text = .ok release.numbers := by
  have hnumber (n : ℕ) (hn : n ∈ release.numbers) :
      number? (Decimal.digitsOf (Nat.toDigits 10 n)) = some n := by
    rw [number?, Json.ofDigits_toDigits, if_neg]
    rw [Decimal.digitsOf, List.length_map]
    exact Nat.not_lt.mpr (release.short n hn)
  have hne : (release.numbers.map fun n => Decimal.digitsOf (Nat.toDigits 10 n)).isEmpty =
      false := by
    simp [release.ne_nil]
  rw [ofString, takeWhile_text, digitRuns_dotted]
  dsimp only
  rw [hne]
  refine mapM_map_eq_ok fun n hn => ?_
  rw [hnumber n hn]

example : (Release.mk [0, 64, 40] (some "beta.2") (by decide) (by decide)).text =
    "0.64.40-beta.2" := by
  decide

/-- On this trail, the version is found to be at least the other one. -/
def Meets {σ : Type} (trail : Trail σ) (release minimum : Release) : Prop :=
  ((textAtLeast release.text minimum.text).run trail).1 = true

theorem meets_iff {σ : Type} (trail : Trail σ) (release minimum : Release) :
    release.Meets trail minimum ↔ extended minimum.numbers ≤ extended release.numbers := by
  rw [Meets, run_textAtLeast release.ofString_text minimum.ofString_text, atLeast_iff]

/-- Releases are compared by their numbers, as sequences that go on with zeros. -/
structure OrderedByNumbers (meets : Release → Release → Prop) : Prop where
  numeric : ∀ release minimum : Release,
    meets release minimum ↔ extended minimum.numbers ≤ extended release.numbers
  refl : ∀ release, meets release release
  trans : ∀ release middle minimum, meets release middle → meets middle minimum →
    meets release minimum
  total : ∀ release other, meets release other ∨ meets other release
  antisymm : ∀ release other : Release, meets release other ∧ meets other release ↔
    SameButZeros release.numbers other.numbers
  raise : ∀ release raised minimum : Release,
    List.Forall₂ (· ≤ ·) release.numbers raised.numbers → meets release minimum →
      meets raised minimum

theorem orderedByNumbers {meets : Release → Release → Prop}
    (h : ∀ release minimum : Release,
      meets release minimum ↔ extended minimum.numbers ≤ extended release.numbers) :
    OrderedByNumbers meets where
  numeric := h
  refl release := (h release release).mpr le_rfl
  trans release middle minimum hr hm :=
    (h release minimum).mpr (((h middle minimum).mp hm).trans ((h release middle).mp hr))
  total release other := by
    rw [h, h]
    exact le_total _ _
  antisymm release other := by
    rw [h, h, ← extended_eq_iff, and_comm]
    exact antisymm_iff
  raise release raised minimum hle hm :=
    (h raised minimum).mpr (((h release minimum).mp hm).trans (extended_mono hle))

end Release

/-- The numbers of a release are read from its text, whatever is remarked, and the order of
releases is that of their numbers. -/
theorem releases_ordered {σ : Type} (trail : Trail σ) :
    (∀ release : Release, ofString release.text = .ok release.numbers) ∧
      Release.OrderedByNumbers (Release.Meets trail) :=
  ⟨Release.ofString_text, Release.orderedByNumbers (Release.meets_iff trail)⟩

end AgentReporting.Version
