/-! # Splitting and trimming

Texts are cut at the first or the last occurrence of a separator. A cut loses
exactly the separator, and what follows it is shorter than the text.
-/

namespace AgentReporting.Text

/-- Cuts at the first occurrence of `sep`. -/
def cut? (sep : List Char) : List Char → Option (List Char × List Char)
  | [] => if sep.isEmpty then some ([], []) else none
  | c :: cs =>
    if sep.isPrefixOf (c :: cs) then some ([], (c :: cs).drop sep.length)
    else (cut? sep cs).map fun (before, after) => (c :: before, after)

/-- The text before the last occurrence of `sep`. -/
def beforeLast? (sep : List Char) : List Char → Option (List Char)
  | [] => if sep.isEmpty then some [] else none
  | c :: cs =>
    match beforeLast? sep cs with
    | some before => some (c :: before)
    | none => if sep.isPrefixOf (c :: cs) then some [] else none

theorem cut?_eq {sep cs before after : List Char} (h : cut? sep cs = some (before, after)) :
    cs = before ++ sep ++ after := by
  induction cs generalizing before after with
  | nil =>
    simp only [cut?] at h
    split at h <;> simp_all
  | cons c cs ih =>
    simp only [cut?] at h
    split at h
    · rename_i hp
      obtain ⟨rest, hr⟩ := List.isPrefixOf_iff_prefix.1 hp
      simp only [Option.some.injEq, Prod.mk.injEq] at h
      rw [← hr, List.drop_left] at h
      rw [← hr, ← h.1, h.2, List.nil_append]
    · obtain ⟨⟨b, a⟩, hc, he⟩ := Option.map_eq_some_iff.1 h
      simp only [Prod.mk.injEq] at he
      rw [← he.1, ← he.2, ih hc]
      simp

theorem length_of_cut? {sep cs before after : List Char} (hs : sep ≠ [])
    (h : cut? sep cs = some (before, after)) : after.length < cs.length := by
  have := List.length_pos_iff.2 hs
  rw [cut?_eq h]
  simp
  omega

/-- The pieces between the occurrences of the separator `s :: sep`, found from the left. -/
def pieces (s : Char) (sep : List Char) (cs : List Char) : List (List Char) :=
  match h : cut? (s :: sep) cs with
  | none => [cs]
  | some (before, after) =>
    have := length_of_cut? (List.cons_ne_nil s sep) h
    before :: pieces s sep after
termination_by cs.length

/-- Drops what `p` accepts from both ends. -/
def trimBy (p : Char → Bool) (cs : List Char) : List Char :=
  ((cs.dropWhile p).reverse.dropWhile p).reverse

/-- Drops what `p` accepts from the end. -/
def trimEndBy (p : Char → Bool) (cs : List Char) : List Char :=
  (cs.reverse.dropWhile p).reverse

/-- Writes `n` in the given base with at least `width` digits. -/
def paddedDigits (base width n : Nat) : List Char :=
  let digits := Nat.toDigits base n
  List.replicate (width - digits.length) '0' ++ digits

end AgentReporting.Text
