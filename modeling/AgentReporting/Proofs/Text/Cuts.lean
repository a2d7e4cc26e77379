import AgentReporting.Text.Split
import Mathlib.Data.List.Infix

/-! # Where texts are cut

A text is cut where its separator begins for the first time, or for the last time. What was
joined with a separator falls into the same pieces again, unless a separator begins inside
one of them; the last piece is the only one that may hold anything.
-/

namespace AgentReporting.Text

variable {sep before after cs : List Char}

/-- A separator cannot begin inside `cs`, and not at its end together with what is put there. -/
def Uncut (sep cs : List Char) : Prop := ¬ sep <:+: cs ++ sep.dropLast

theorem Uncut.of_cons {c : Char} (h : Uncut sep (c :: cs)) : Uncut sep cs :=
  fun hi => h (List.infix_cons hi)

theorem Uncut.not_isInfix (h : Uncut sep cs) : ¬ sep <:+: cs :=
  fun hi => h (hi.trans (List.prefix_append cs sep.dropLast).isInfix)

theorem Uncut.not_isPrefix {c : Char} (h : Uncut sep (c :: cs)) (rest : List Char) :
    ¬ sep <+: c :: (cs ++ sep ++ rest) := by
  intro hp
  refine h (List.prefix_of_prefix_length_le hp (?_ : _ <+: _) ?_).isInfix
  · obtain ⟨last, hl⟩ := List.dropLast_prefix sep
    exact ⟨last ++ rest, by rw [List.append_assoc, ← List.append_assoc _ last, hl]; simp⟩
  · simp only [List.length_append, List.length_cons, List.length_dropLast]
    omega

/-! ## The first cut -/

theorem cut?_eq_none_iff (hs : sep ≠ []) : cut? sep cs = none ↔ ¬ sep <:+: cs := by
  induction cs with
  | nil => simp [cut?, hs]
  | cons c cs ih =>
    rw [cut?, List.infix_cons_iff, not_or, ← ih, ← List.isPrefixOf_iff_prefix]
    split <;> simp_all

theorem cut?_append (h : Uncut sep before) (after : List Char) :
    cut? sep (before ++ sep ++ after) = some (before, after) := by
  induction before with
  | nil =>
    cases sep with
    | nil => exact absurd List.nil_infix h
    | cons s sep =>
      have hp : (s :: sep).isPrefixOf (s :: (sep ++ after)) = true :=
        List.isPrefixOf_iff_prefix.mpr (List.prefix_append (s :: sep) after)
      rw [List.nil_append, List.cons_append, cut?, if_pos hp, ← List.cons_append, List.drop_left]
  | cons c before ih =>
    have hp : sep.isPrefixOf (c :: (before ++ sep ++ after)) = false :=
      Bool.eq_false_iff.mpr fun hp => h.not_isPrefix after (List.isPrefixOf_iff_prefix.mp hp)
    rw [List.cons_append, List.cons_append, cut?, hp, ih h.of_cons]
    rfl

/-! ## The last cut -/

theorem beforeLast?_append {cut : List Char} (h : beforeLast? sep after = some cut)
    (before : List Char) : beforeLast? sep (before ++ after) = some (before ++ cut) := by
  induction before with
  | nil => exact h
  | cons c before ih => rw [List.cons_append, beforeLast?, ih, List.cons_append]

theorem beforeLast?_eq_none_iff (hs : sep ≠ []) : beforeLast? sep cs = none ↔ ¬ sep <:+: cs := by
  induction cs with
  | nil => simp [beforeLast?, hs]
  | cons c cs ih =>
    rw [beforeLast?, List.infix_cons_iff, not_or, ← ih, ← List.isPrefixOf_iff_prefix]
    split <;> simp_all

/-! ## Pieces -/

section Pieces

variable {s : Char} {sep cs : List Char}

theorem pieces_of_cut (h : cut? (s :: sep) cs = some (before, after)) :
    pieces s sep cs = before :: pieces s sep after := by
  rw [pieces]
  split
  · rename_i hc
    rw [h] at hc
    cases hc
  · rename_i hc
    obtain ⟨rfl, rfl⟩ := Prod.mk.inj (Option.some.inj (hc.symm.trans h))
    rfl

theorem pieces_of_not_isInfix (h : ¬ s :: sep <:+: cs) : pieces s sep cs = [cs] := by
  have hc := (cut?_eq_none_iff (List.cons_ne_nil s sep)).mpr h
  rw [pieces]
  split <;> simp_all

theorem pieces_append (h : Uncut (s :: sep) before) (after : List Char) :
    pieces s sep (before ++ s :: sep ++ after) = before :: pieces s sep after :=
  pieces_of_cut (cut?_append h after)

/-- Of what is joined, the parts that are no cut come out again, and after them the pieces of
the last part. -/
theorem pieces_intercalate {parts : List (List Char)} (h : ∀ part ∈ parts, Uncut (s :: sep) part)
    (last : List Char) :
    pieces s sep ((s :: sep).intercalate (parts ++ [last])) = parts ++ pieces s sep last := by
  induction parts with
  | nil => simp
  | cons part parts ih =>
    obtain ⟨hp, hps⟩ := List.forall_mem_cons.mp h
    have hne : parts ++ [last] ≠ [] := by simp
    obtain ⟨next, rest, hr⟩ := List.exists_cons_of_ne_nil hne
    rw [List.cons_append, hr, List.intercalate_cons_cons, pieces_append hp, ← hr, ih hps,
      List.cons_append]

theorem pieces_ne_nil (s : Char) (sep cs : List Char) : pieces s sep cs ≠ [] := by
  rw [pieces]
  split <;> simp

theorem suffix_of_getLast?_pieces {piece : List Char}
    (h : (pieces s sep cs).getLast? = some piece) : piece <:+ cs := by
  fun_induction pieces s sep cs with
  | case1 cs hc =>
    obtain rfl := Option.some.inj h
    exact List.suffix_refl cs
  | case2 cs before after hc hlt ih =>
    rw [List.getLast?_cons_of_ne_nil (pieces_ne_nil s sep after)] at h
    rw [cut?_eq hc]
    exact (ih h).trans (List.suffix_append (before ++ s :: sep) after)

/-- A text is its own last piece if no separator stands in it, for a cut leaves less. -/
theorem getLast?_pieces_eq_iff : (pieces s sep cs).getLast? = some cs ↔ ¬ s :: sep <:+: cs := by
  constructor
  · intro h hi
    cases hc : cut? (s :: sep) cs with
    | none => exact (cut?_eq_none_iff (List.cons_ne_nil s sep)).mp hc hi
    | some cut =>
      obtain ⟨before, after⟩ := cut
      rw [pieces_of_cut hc, List.getLast?_cons_of_ne_nil (pieces_ne_nil s sep after)] at h
      have hle := (suffix_of_getLast?_pieces h).length_le
      have hlt := length_of_cut? (List.cons_ne_nil s sep) hc
      omega
  · intro h
    rw [pieces_of_not_isInfix h]
    rfl

end Pieces

end AgentReporting.Text
