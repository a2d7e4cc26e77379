import AgentReporting.Proofs.Json.RoundTrip
import Mathlib.Data.List.Forall2

/-! # Values with their keys in order

With the keys of all dictionaries in order, two values are the same if and only if one can be
rearranged into the other by changing the order of entries.
-/

namespace AgentReporting

/-- One value becomes another when the entries of dictionaries change their places, at any depth. -/
inductive Value.Rearranged : Value → Value → Prop where
  | refl (v : Value) : Rearranged v v
  | trans {u v w : Value} (h : Rearranged u v) (h' : Rearranged v w) : Rearranged u w
  | perm {fields fields' : List (String × Value)} (h : fields.Perm fields') :
      Rearranged (.dict fields) (.dict fields')
  | item {v w : Value} (h : Rearranged v w) (before after : List Value) :
      Rearranged (.list (before ++ v :: after)) (.list (before ++ w :: after))
  | field {v w : Value} (h : Rearranged v w) (before : List (String × Value)) (key : String)
      (after : List (String × Value)) :
      Rearranged (.dict (before ++ (key, v) :: after)) (.dict (before ++ (key, w) :: after))

namespace Value.Rearranged

variable {v w : Value}

theorem symm (h : Rearranged v w) : Rearranged w v := by
  induction h with
  | refl v => exact .refl v
  | trans _ _ ih ih' => exact ih'.trans ih
  | perm h => exact .perm h.symm
  | item _ before after ih => exact ih.item before after
  | field _ before key after ih => exact ih.field before key after

theorem exact (h : Rearranged v w) (hv : v.Exact) : w.Exact := by
  induction h with
  | refl => exact hv
  | trans _ _ ih ih' => exact ih' (ih hv)
  | perm h =>
    cases hv with
    | dict hk hx =>
      exact .dict ((h.map _).nodup_iff.mp hk) fun entry he => hx entry (h.mem_iff.mpr he)
  | item _ before after ih =>
    cases hv with
    | list hx =>
      refine .list fun u hu => ?_
      rcases List.mem_append.mp hu with hb | ha
      · exact hx u (List.mem_append_left _ hb)
      rcases List.mem_cons.mp ha with rfl | ha
      · exact ih (hx _ (by simp))
      · exact hx u (by simp [ha])
  | field _ before key after ih =>
    cases hv with
    | dict hk hx =>
      refine .dict (by simpa using hk) fun entry he => ?_
      rcases List.mem_append.mp he with hb | ha
      · exact hx entry (List.mem_append_left _ hb)
      rcases List.mem_cons.mp ha with rfl | ha
      · exact ih (hx (key, _) (by simp))
      · exact hx entry (by simp [ha])

theorem list {items items' : List Value} (h : List.Forall₂ Rearranged items items')
    (before : List Value) : Rearranged (.list (before ++ items)) (.list (before ++ items')) := by
  induction h generalizing before with
  | nil => exact .refl _
  | @cons v w rest rest' hv _ ih =>
    have hrest := ih (before ++ [w])
    rw [List.append_assoc, List.append_assoc] at hrest
    exact (hv.item before rest).trans hrest

theorem dict {fields : List (String × Value)} {f : Value → Value}
    (h : ∀ entry ∈ fields, Rearranged entry.2 (f entry.2)) (before : List (String × Value)) :
    Rearranged (.dict (before ++ fields))
      (.dict (before ++ fields.map fun entry => (entry.1, f entry.2))) := by
  induction fields generalizing before with
  | nil => exact .refl _
  | cons entry rest ih =>
    obtain ⟨hv, hvs⟩ := List.forall_mem_cons.mp h
    have hrest := ih hvs (before ++ [(entry.1, f entry.2)])
    rw [List.append_assoc, List.append_assoc] at hrest
    exact (hv.field before entry.1 rest).trans hrest

end Value.Rearranged

namespace Json

open Value

theorem sortKeysAll_eq_map (items : List Value) : sortKeysAll items = items.map sortKeys := by
  induction items with
  | nil => rw [sortKeysAll, List.map_nil]
  | cons v rest ih => rw [sortKeysAll, ih, List.map_cons]

theorem sortKeysFields_eq_map (fields : List (String × Value)) :
    sortKeysFields fields = fields.map fun entry => (entry.1, sortKeys entry.2) := by
  induction fields with
  | nil => rw [sortKeysFields, List.map_nil]
  | cons entry rest ih => rw [sortKeysFields, ih, List.map_cons]

theorem rearranged_sortKeys {v : Value} (h : v.Exact) : Rearranged v (sortKeys v) := by
  induction h with
  | null => exact .refl _
  | bool => exact .refl _
  | int => exact .refl _
  | str => exact .refl _
  | @list items _ ih =>
    rw [sortKeys, sortKeysAll_eq_map]
    exact Rearranged.list (List.forall₂_map_right_iff.mpr (List.forall₂_same.mpr ih)) []
  | @dict fields _ _ ih =>
    rw [sortKeys, sortKeysFields_eq_map]
    exact (Rearranged.dict ih []).trans (.perm (List.mergeSort_perm _ _).symm)

/-- The order of entries with different keys is settled by their keys. -/
theorem sortEntries_eq_of_perm {fields fields' : List (String × Value)}
    (hk : (fields.map (·.1)).Nodup) (h : fields.Perm fields') :
    sortEntries fields = sortEntries fields' := by
  have hsorted (entries : List (String × Value)) :
      (sortEntries entries).Pairwise fun a b => a.1 ≤ b.1 := by
    have hp := @List.pairwise_mergeSort _ (fun a b : String × Value => decide (a.1 ≤ b.1))
      (fun a b c hab hbc => decide_eq_true
        (String.le_trans (of_decide_eq_true hab) (of_decide_eq_true hbc)))
      (fun a b => by simpa using String.le_total a.1 b.1) entries
    exact hp.imp of_decide_eq_true
  have hperm : (sortEntries fields).Perm (sortEntries fields') :=
    (List.mergeSort_perm _ _).trans (h.trans (List.mergeSort_perm _ _).symm)
  have hinj := List.inj_on_of_nodup_map hk
  refine hperm.eq_of_pairwise (fun a b ha hb hab hba => ?_) (hsorted fields) (hsorted fields')
  exact hinj (List.mem_mergeSort.mp ha) (h.mem_iff.mpr (List.mem_mergeSort.mp hb))
    (String.le_antisymm hab hba)

theorem sortKeys_eq_of_rearranged {v w : Value} (h : Rearranged v w) (hv : v.Exact) :
    sortKeys v = sortKeys w := by
  induction h with
  | refl => rfl
  | trans h _ ih ih' => exact (ih hv).trans (ih' (h.exact hv))
  | perm h =>
    cases hv with
    | dict hk hx =>
      rw [sortKeys, sortKeys, sortKeysFields_eq_map, sortKeysFields_eq_map]
      refine congrArg Value.dict (sortEntries_eq_of_perm ?_ (h.map _))
      rwa [List.map_map]
  | item _ before after ih =>
    cases hv with
    | list hx =>
      simp only [sortKeys, sortKeysAll_eq_map, List.map_append, List.map_cons, ih (hx _ (by simp))]
  | @field v w _ before key after ih =>
    cases hv with
    | dict hk hx =>
      have hv : v.Exact := hx (key, v) (by simp)
      simp only [sortKeys, sortKeysFields_eq_map, List.map_append, List.map_cons, ih hv]

/-- Exact values are the same with their keys in order, if and only if one is the other up to
the order of entries. -/
theorem sortKeys_eq_iff {v w : Value} (hv : v.Exact) (hw : w.Exact) :
    sortKeys v = sortKeys w ↔ Rearranged v w := by
  constructor
  · intro h
    have hr := rearranged_sortKeys hw
    rw [← h] at hr
    exact (rearranged_sortKeys hv).trans hr.symm
  · exact fun h => sortKeys_eq_of_rearranged h hv

theorem sortKeys_exact {v : Value} (h : v.Exact) : (sortKeys v).Exact :=
  (rearranged_sortKeys h).exact h

end Json

end AgentReporting
