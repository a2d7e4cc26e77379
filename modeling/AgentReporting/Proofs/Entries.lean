import AgentReporting.Entries
import Mathlib.Data.List.Nodup

/-! # Dictionaries

Writing an entry adds it or takes the place of the one with its key, so that keys which are
different stay so. A dictionary with different keys is what its own pairs describe.
-/

namespace AgentReporting.Entries

variable {α : Type} {entries : Entries α} {key : String} {value : α}

/-! ## Reading -/

theorem mem_of_get? (h : get? entries key = some value) : (key, value) ∈ entries := by
  obtain ⟨before, after, rfl, -⟩ := List.lookup_eq_some_iff.mp h
  exact List.mem_append_right _ List.mem_cons_self

theorem get?_eq_some_iff (h : (entries.map (·.1)).Nodup) :
    get? entries key = some value ↔ (key, value) ∈ entries := by
  refine ⟨mem_of_get?, fun hm => ?_⟩
  cases hg : get? entries key with
  | none => simpa using List.lookup_eq_none_iff.mp hg _ hm
  | some found =>
    have heq := List.inj_on_of_nodup_map h (mem_of_get? hg) hm rfl
    rw [(Prod.mk.inj heq).2]

theorem get?_map (f : α → α) (entries : Entries α) (key : String) :
    get? (entries.map fun entry => (entry.1, f entry.2)) key = (get? entries key).map f := by
  induction entries with
  | nil => rfl
  | cons entry rest ih =>
    rw [List.map_cons, get?_cons, get?_cons, ih]
    split <;> rfl

theorem get?_filter {keys : List String} (hk : key ∉ keys) (entries : Entries α) :
    get? (entries.filter fun entry => !keys.contains entry.1) key = get? entries key := by
  induction entries with
  | nil => rfl
  | cons entry rest ih =>
    obtain ⟨other, value⟩ := entry
    by_cases ho : keys.contains other = true
    · have hne : key ≠ other := by
        rintro rfl
        exact hk (List.contains_iff_mem.mp ho)
      rw [List.filter_cons_of_neg (by simpa using ho), ih, get?_cons, if_neg hne]
    · rw [List.filter_cons_of_pos (by simpa using ho), get?_cons, get?_cons, ih]

/-! ## Writing -/

theorem mem_put {entry : String × α} (h : entry ∈ put entries key value) :
    entry ∈ entries ∨ entry = (key, value) := by
  induction entries with
  | nil => exact .inr (List.mem_singleton.mp h)
  | cons first rest ih =>
    obtain ⟨k, v⟩ := first
    rw [put] at h
    split at h
    · rename_i hk
      subst hk
      rcases List.mem_cons.mp h with rfl | h
      · exact .inr rfl
      · exact .inl (List.mem_cons_of_mem _ h)
    · rcases List.mem_cons.mp h with rfl | h
      · exact .inl List.mem_cons_self
      · exact (ih h).imp_left (List.mem_cons_of_mem _)

theorem keys_put_of_mem (h : key ∈ entries.map (·.1)) :
    (put entries key value).map (·.1) = entries.map (·.1) := by
  induction entries with
  | nil => contradiction
  | cons first rest ih =>
    obtain ⟨k, v⟩ := first
    rw [put]
    split
    · rfl
    · rename_i hk
      rw [List.map_cons, List.map_cons, ih ((List.mem_cons.mp h).resolve_left (Ne.symm hk))]

theorem put_of_notMem (h : key ∉ entries.map (·.1)) (value : α) :
    put entries key value = entries ++ [(key, value)] := by
  induction entries with
  | nil => rfl
  | cons entry rest ih =>
    obtain ⟨k, v⟩ := entry
    rw [List.map_cons, List.mem_cons, not_or] at h
    rw [put, if_neg (Ne.symm h.1), ih h.2, List.cons_append]

theorem nodup_put (h : (entries.map (·.1)).Nodup) : ((put entries key value).map (·.1)).Nodup := by
  by_cases hk : key ∈ entries.map (·.1)
  · rwa [keys_put_of_mem hk]
  · rw [put_of_notMem hk, List.map_append, List.map_singleton, ← List.concat_eq_append]
    exact h.concat hk

theorem merge_of_nodup {others : Entries α} (h : ((entries ++ others).map (·.1)).Nodup) :
    merge entries others = entries ++ others := by
  induction others generalizing entries with
  | nil => exact (List.append_nil _).symm
  | cons entry rest ih =>
    have hn : entry.1 ∉ entries.map (·.1) := by
      rw [List.map_append, List.map_cons, List.nodup_middle, List.nodup_cons] at h
      exact fun hm => h.1 (List.mem_append_left _ hm)
    change merge (put entries entry.1 entry.2) rest = _
    rw [List.append_cons] at h ⊢
    rw [put_of_notMem hn]
    exact ih h

theorem ofList_of_nodup {pairs : List (String × α)} (h : (pairs.map (·.1)).Nodup) :
    ofList pairs = pairs := merge_of_nodup h

end AgentReporting.Entries
