import AgentReporting.Kit.Basic
import AgentReporting.Proofs.Kit.Keeping
import Mathlib.Data.List.Nodup

/-! # Hooks of drivers

The hooks of drivers are run one after the other, whether they fail or not. Each driver is
enlisted once, with the hook that stops it.
-/

namespace AgentReporting

variable {σ ρ : Type}

namespace Registry

variable {κ η : Type} {view : σ → ρ}

section Insert

variable [DecidableEq κ] {key : κ} {hook : η} {entries : List (κ × η)}

/-- A driver that is registered again keeps its place. -/
theorem keys_insert (key : κ) (hook : η) (entries : List (κ × η)) :
    (insert key hook entries).map (·.1) =
      if key ∈ entries.map (·.1) then entries.map (·.1) else entries.map (·.1) ++ [key] := by
  induction entries with
  | nil => rfl
  | cons first rest ih =>
    rw [insert]
    by_cases hk : first.1 = key
    · simp [hk]
    · rw [if_neg hk, List.map_cons, ih]
      simp only [List.map_cons, List.mem_cons, Ne.symm hk, false_or]
      split <;> simp

theorem nodup_keys_insert (h : (entries.map (·.1)).Nodup) (key : κ) (hook : η) :
    ((insert key hook entries).map (·.1)).Nodup := by
  rw [keys_insert]
  split
  · exact h
  · rename_i hn
    exact h.append (List.nodup_singleton key) (List.disjoint_singleton.mpr hn)

theorem mem_insert_iff (h : (entries.map (·.1)).Nodup) {entry : κ × η} :
    entry ∈ insert key hook entries ↔
      entry = (key, hook) ∨ entry.1 ≠ key ∧ entry ∈ entries := by
  induction entries with
  | nil => simp [insert]
  | cons first rest ih =>
    obtain ⟨hfirst, hrest⟩ := List.nodup_cons.mp h
    rw [insert]
    split
    · rename_i hk
      have hne (he : entry ∈ rest) : entry.1 ≠ key := by
        intro hek
        exact hfirst (List.mem_map.mpr ⟨entry, he, hek.trans hk.symm⟩)
      simp only [List.mem_cons]
      constructor
      · exact Or.imp_right fun he => ⟨hne he, .inr he⟩
      · rintro (rfl | ⟨hek, rfl | he⟩)
        · exact .inl rfl
        · exact absurd hk hek
        · exact .inr he
    · rename_i hk
      rw [List.mem_cons, ih hrest, List.mem_cons]
      constructor
      · rintro (rfl | rfl | ⟨hek, he⟩)
        · exact .inr ⟨hk, .inl rfl⟩
        · exact .inl rfl
        · exact .inr ⟨hek, .inr he⟩
      · rintro (rfl | ⟨hek, rfl | he⟩)
        · exact .inr (.inl rfl)
        · exact .inl rfl
        · exact .inr (.inr ⟨hek, he⟩)

end Insert

theorem run_runDrivers_append (run : η → Attempt σ Unit) (xs ys : List η) (trail : Trail σ) :
    (runDrivers run (xs ++ ys)).run trail =
      (runDrivers run ys).run ((runDrivers run xs).run trail).2 := by
  induction xs generalizing trail with
  | nil => rfl
  | cons hook rest ih =>
    rw [List.cons_append, runDrivers, runDrivers]
    simp only [Act.run_bind]
    split <;> exact ih _

theorem run_runDrivers_cons (run : η → Attempt σ Unit) (hook : η) (rest : List η)
    (trail : Trail σ) :
    let start := ((Act.info "Closing driver gracefully...").run trail).2
    ∃ next : Trail σ, next.outside = ((run hook).result.run start).2.outside ∧
      (runDrivers run (hook :: rest)).run trail = (runDrivers run rest).run next := by
  intro start
  rw [runDrivers, Act.run_bind, Act.run_bind]
  split
  · exact ⟨_, rfl, rfl⟩
  · refine ⟨_, ?_, Act.run_bind _ (fun _ => runDrivers run rest) _⟩
    rfl

theorem runDrivers_keeps {run : η → Attempt σ Unit} {hooks : List η}
    (h : ∀ hook ∈ hooks, (run hook).Keeps view) : (runDrivers run hooks).Keeps view := by
  induction hooks with
  | nil => exact .answer _
  | cons hook rest ih =>
    obtain ⟨hhook, hrest⟩ := List.forall_mem_cons.mp h
    refine .seq (.write _) fun _ => .seq hhook fun result => ?_
    cases result with
    | error fault => exact .seq (.write _) fun _ => ih hrest
    | ok => exact ih hrest

theorem runClient_keeps {run : η → Attempt σ Unit} {client : Option η}
    (h : ∀ hook ∈ client, (run hook).Keeps view) : (runClient run client).Keeps view := by
  cases client with
  | none => exact .answer _
  | some hook =>
    refine .seq (h hook rfl) fun result => ?_
    cases result with
    | error fault => exact .write _
    | ok => exact .answer _

end Registry

namespace Kit

/-- The registry stops the drivers that it knows, each of them once, and ends a client last. -/
structure Enlists (registry : Registry Nat Hook) : Prop where
  hooks : ∀ entry ∈ registry.drivers, entry.2 = .stopDriver entry.1
  once : (registry.drivers.map (·.1)).Nodup
  client : ∀ hook, registry.client = some hook → ∃ n, hook = .closeClient n

variable {registry : Registry Nat Hook} {id : Nat}

inductive Enrolment where
  | addDriver (id : Nat)
  | removeDriver (id : Nat)
  | setClient (id : Nat)
  | removeClient

def Enrolment.apply (registry : Registry Nat Hook) : Enrolment → Registry Nat Hook
  | addDriver id => registry.addDriver id (.stopDriver id)
  | removeDriver id => registry.removeDriver id
  | setClient id => registry.setClient (.closeClient id)
  | removeClient => registry.removeClient

theorem Enlists.addDriver (h : Enlists registry) (id : Nat) :
    Enlists (registry.addDriver id (.stopDriver id)) := by
  constructor
  · intro entry he
    rcases (Registry.mem_insert_iff h.once).mp he with rfl | ⟨-, he⟩
    · rfl
    · exact h.hooks entry he
  · exact Registry.nodup_keys_insert h.once id (.stopDriver id)
  · exact h.client

theorem Enlists.apply (h : Enlists registry) (enrolment : Enrolment) :
    Enlists (enrolment.apply registry) := by
  cases enrolment with
  | addDriver id => exact h.addDriver id
  | removeDriver id =>
    have hs : (registry.removeDriver id).drivers.Sublist registry.drivers := List.filter_sublist
    exact ⟨fun entry he => h.hooks entry (hs.subset he), h.once.sublist (hs.map _), h.client⟩
  | setClient id => exact ⟨h.hooks, h.once, fun _ hh => ⟨id, (Option.some.inj hh).symm⟩⟩
  | removeClient => exact ⟨h.hooks, h.once, fun _ hh => nomatch hh⟩

/-- However drivers and clients come and go, the registry enlists them. -/
theorem enlists_enrolments (enrolments : List Enrolment) :
    Enlists (enrolments.foldl Enrolment.apply {}) := by
  have hrun (registry : Registry Nat Hook) (h : Enlists registry) :
      Enlists (enrolments.foldl Enrolment.apply registry) := by
    induction enrolments generalizing registry with
    | nil => exact h
    | cons enrolment rest ih => exact ih _ (h.apply enrolment)
  exact hrun {} ⟨fun _ h => (List.not_mem_nil h).elim, .nil, fun _ h => nomatch h⟩

theorem Enlists.split (h : Enlists registry)
    (hi : registry.hasDriver id = true) : ∃ pre post,
      registry.drivers.map (·.2) = pre ++ .stopDriver id :: post ∧
        ∀ hook ∈ pre ++ post, ∃ other, other ≠ id ∧ hook = .stopDriver other := by
  obtain ⟨entry, he, hid⟩ := List.any_eq_true.mp hi
  obtain ⟨pre, post, hp⟩ := List.append_of_mem he
  have hid : entry.1 = id := by simpa using hid
  have honce := h.once
  rw [hp, List.map_append, List.map_cons, List.nodup_middle, hid, List.nodup_cons] at honce
  refine ⟨pre.map (·.2), post.map (·.2), ?_, ?_⟩
  · rw [hp, List.map_append, List.map_cons, h.hooks entry he, hid]
  · intro hook hh
    rw [← List.map_append] at hh
    obtain ⟨other, ho, rfl⟩ := List.mem_map.mp hh
    have hm : other ∈ registry.drivers := by
      rw [hp]
      rcases List.mem_append.mp ho with ho | ho
      · exact List.mem_append_left _ ho
      · exact List.mem_append_right _ (List.mem_cons_of_mem _ ho)
    refine ⟨other.1, ?_, h.hooks other hm⟩
    rintro rfl
    exact honce.1 (by rw [← List.map_append]; exact List.mem_map_of_mem ho)

end Kit

end AgentReporting
