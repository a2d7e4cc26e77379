import AgentReporting.Proofs.Kit.Hooks
import Mathlib.Data.List.Induction

/-! # What a shutdown runs

Drivers and a client come and go between shutdowns. The history alone tells what the next
shutdown runs: for each driver that was added and not taken off since, the hook that it was given
last, in the order in which these drivers came, and then the hook of the client. Whether hooks
fail makes no difference.
-/

namespace AgentReporting.Registry

variable {κ η ω : Type}

inductive Operation (κ η : Type) where
  | addDriver (key : κ) (hook : η)
  | removeDriver (key : κ)
  | setClient (hook : η)
  | removeClient
  | shutdown
deriving DecidableEq

/-! ## Histories -/

section History

variable {key : κ} {hook : η} {n : ℕ} {op : Operation κ η} {ops : List (Operation κ η)}

/-- Such an operation was asked for, and only others that it outlasts since then. -/
def Since (start : List (Operation κ η) → Operation κ η → Prop) (outlasts : Operation κ η → Prop)
    (ops : List (Operation κ η)) : Prop :=
  ∃ pre op post, ops = pre ++ op :: post ∧ start pre op ∧ ∀ later ∈ post, outlasts later

section Since

variable {start : List (Operation κ η) → Operation κ η → Prop} {outlasts : Operation κ η → Prop}

theorem not_since_nil : ¬ Since start outlasts [] := by
  rintro ⟨pre, op, post, h, -⟩
  simp at h

theorem since_append_singleton : Since start outlasts (ops ++ [op]) ↔
    start ops op ∨ outlasts op ∧ Since start outlasts ops := by
  constructor
  · rintro ⟨pre, first, post, h, hs, ho⟩
    rcases List.eq_nil_or_concat post with rfl | ⟨later, last, rfl⟩
    · obtain ⟨rfl, hop⟩ := List.append_inj' h rfl
      cases hop
      exact .inl hs
    · rw [List.concat_eq_append, ← List.cons_append, ← List.append_assoc] at h
      obtain ⟨rfl, hop⟩ := List.append_inj' h rfl
      cases hop
      rw [List.concat_eq_append, List.forall_mem_append] at ho
      exact .inr ⟨ho.2 _ (List.mem_singleton_self _), pre, first, later, rfl, hs, ho.1⟩
  · rintro (hs | ⟨ho, pre, first, post, rfl, hs, hp⟩)
    · exact ⟨ops, op, [], rfl, hs, nofun⟩
    · refine ⟨pre, first, post ++ [op], by simp, hs, ?_⟩
      exact List.forall_mem_append.mpr ⟨hp, List.forall_mem_singleton.mpr ho⟩

end Since

namespace Operation

def Adds (key : κ) (op : Operation κ η) : Prop := ∃ hook, op = .addDriver key hook

/-- The operation leaves the driver registered, if it was. -/
def Spares (key : κ) (op : Operation κ η) : Prop := op ≠ .removeDriver key ∧ op ≠ .shutdown

def SparesClient (op : Operation κ η) : Prop :=
  (∀ hook, op ≠ .setClient hook) ∧ op ≠ .removeClient ∧ op ≠ .shutdown

end Operation

def Registered (key : κ) : List (Operation κ η) → Prop :=
  Since (fun _ op => op.Adds key) fun later => later.Spares key

/-- The driver is registered, and was given this hook last. -/
def Latest (key : κ) (hook : η) : List (Operation κ η) → Prop :=
  Since (fun _ op => op = .addDriver key hook) fun later => later.Spares key ∧ ¬ later.Adds key

/-- The driver is registered, and has been since the operation with this number. -/
def CameAt (key : κ) (n : ℕ) : List (Operation κ η) → Prop :=
  Since (fun pre op => op.Adds key ∧ ¬ Registered key pre ∧ pre.length = n)
    fun later => later.Spares key

def LatestClient (hook : η) : List (Operation κ η) → Prop :=
  Since (fun _ op => op = .setClient hook) Operation.SparesClient

def CameBefore (ops : List (Operation κ η)) (key other : κ) : Prop :=
  ∃ m n, CameAt key m ops ∧ CameAt other n ops ∧ m < n

/-- What a shutdown is to run after these operations: the drivers with their hooks, in order,
and the hook of the client. -/
structure Due (ops : List (Operation κ η)) (drivers : List (κ × η)) (client : Option η) :
    Prop where
  once : (drivers.map (·.1)).Nodup
  latest : ∀ key hook, (key, hook) ∈ drivers ↔ Latest key hook ops
  inOrder : (drivers.map (·.1)).Pairwise (CameBefore ops)
  client : ∀ hook, client = some hook ↔ LatestClient hook ops

/-! ### One more operation -/

theorem registered_append_singleton : Registered key (ops ++ [op]) ↔
    op.Adds key ∨ op.Spares key ∧ Registered key ops := since_append_singleton

theorem latest_append_singleton : Latest key hook (ops ++ [op]) ↔
    op = .addDriver key hook ∨ (op.Spares key ∧ ¬ op.Adds key) ∧ Latest key hook ops :=
  since_append_singleton

theorem cameAt_append_singleton : CameAt key n (ops ++ [op]) ↔
    (op.Adds key ∧ ¬ Registered key ops ∧ ops.length = n) ∨ op.Spares key ∧ CameAt key n ops :=
  since_append_singleton

theorem latestClient_append_singleton : LatestClient hook (ops ++ [op]) ↔
    op = .setClient hook ∨ op.SparesClient ∧ LatestClient hook ops := since_append_singleton

theorem Operation.Adds.spares (h : op.Adds key) (other : κ) : op.Spares other := by
  obtain ⟨hook, rfl⟩ := h
  exact ⟨nofun, nofun⟩

theorem Operation.spares_removeDriver_iff {other : κ} :
    (removeDriver other : Operation κ η).Spares key ↔ key ≠ other := by
  simp [Spares, eq_comm]

theorem registered_iff_latest : Registered key ops ↔ ∃ hook, Latest key hook ops := by
  induction ops using List.reverseRecOn with
  | nil => exact iff_of_false not_since_nil fun ⟨_, h⟩ => not_since_nil h
  | append_singleton ops op ih =>
    simp only [registered_append_singleton, latest_append_singleton, exists_or, exists_and_left, ih]
    by_cases ha : op.Adds key
    · exact iff_of_true (.inl ha) (.inl ha)
    · simp only [ha, not_false_eq_true, and_true, false_or]
      exact (or_iff_right ha).symm

theorem exists_cameAt (h : Registered key ops) : ∃ n < ops.length, CameAt key n ops := by
  induction ops using List.reverseRecOn with
  | nil => exact absurd h not_since_nil
  | append_singleton ops op ih =>
    simp only [cameAt_append_singleton, List.length_append, List.length_singleton]
    by_cases hr : Registered key ops
    · obtain ⟨n, hn, hc⟩ := ih hr
      have hs : op.Spares key :=
        (registered_append_singleton.mp h).elim (·.spares key) (·.1)
      exact ⟨n, by omega, .inr ⟨hs, hc⟩⟩
    · have ha : op.Adds key := (registered_append_singleton.mp h).resolve_right fun h => hr h.2
      exact ⟨ops.length, by omega, .inl ⟨ha, hr, rfl⟩⟩

theorem registered_of_cameAt (h : CameAt key n ops) : Registered key ops := by
  obtain ⟨pre, op, post, hs, ⟨ha, -, -⟩, ho⟩ := h
  exact ⟨pre, op, post, hs, ha, ho⟩

theorem CameAt.unique {m : ℕ} (hm : CameAt key m ops) (hn : CameAt key n ops) : m = n := by
  induction ops using List.reverseRecOn with
  | nil => exact absurd hm not_since_nil
  | append_singleton ops op ih =>
    rw [cameAt_append_singleton] at hm hn
    rcases hm with ⟨-, hr, rfl⟩ | ⟨-, hm⟩
    · rcases hn with ⟨-, -, rfl⟩ | ⟨-, hn⟩
      · rfl
      · exact absurd (registered_of_cameAt hn) hr
    · rcases hn with ⟨-, hr, rfl⟩ | ⟨-, hn⟩
      · exact absurd (registered_of_cameAt hm) hr
      · exact ih hm hn

/-- A history leaves no choice of what is due. -/
theorem Due.unique {drivers others : List (κ × η)} {client other : Option η}
    (h : Due ops drivers client) (ho : Due ops others other) :
    drivers = others ∧ client = other := by
  constructor
  · have hperm : drivers.Perm others := by
      refine (List.perm_ext_iff_of_nodup h.once.of_map ho.once.of_map).mpr fun ⟨key, hook⟩ => ?_
      rw [h.latest, ho.latest]
    refine hperm.eq_of_pairwise ?_ (List.pairwise_map.mp h.inOrder)
      (List.pairwise_map.mp ho.inOrder)
    rintro a b - - ⟨m, n, hm, hn, hlt⟩ ⟨n', m', hn', hm', hlt'⟩
    obtain rfl := hm.unique hm'
    obtain rfl := hn.unique hn'
    omega
  · exact Option.ext fun hook => (h.client hook).trans (ho.client hook).symm

/-! ### What becomes due -/

variable {drivers : List (κ × η)} {client : Option η}

theorem due_nil : Due ([] : List (Operation κ η)) [] none where
  once := .nil
  latest _ _ := iff_of_false List.not_mem_nil not_since_nil
  inOrder := .nil
  client _ := iff_of_false nofun not_since_nil

theorem Due.mem_keys_iff (h : Due ops drivers client) :
    key ∈ drivers.map (·.1) ↔ Registered key ops := by
  simp only [registered_iff_latest, ← h.latest]
  simp

theorem CameBefore.append_singleton {other : κ} (h : CameBefore ops key other)
    (hk : op.Spares key) (ho : op.Spares other) : CameBefore (ops ++ [op]) key other := by
  obtain ⟨m, n, hm, hn, hlt⟩ := h
  exact ⟨m, n, cameAt_append_singleton.mpr (.inr ⟨hk, hm⟩),
    cameAt_append_singleton.mpr (.inr ⟨ho, hn⟩), hlt⟩

theorem Due.addDriver [DecidableEq κ] (h : Due ops drivers client) (key : κ) (hook : η) :
    Due (ops ++ [.addDriver key hook]) (insert key hook drivers) client where
  once := nodup_keys_insert h.once key hook
  latest other last := by
    rw [mem_insert_iff h.once, latest_append_singleton, h.latest]
    simp [Operation.Spares, Operation.Adds, eq_comm]
  inOrder := by
    have hs : ∀ other, (Operation.addDriver key hook).Spares other :=
      Operation.Adds.spares ⟨hook, rfl⟩
    have hkept : (drivers.map (·.1)).Pairwise (CameBefore (ops ++ [.addDriver key hook])) :=
      h.inOrder.imp fun hb => hb.append_singleton (hs _) (hs _)
    rw [keys_insert]
    split
    · exact hkept
    · rename_i hn
      refine List.pairwise_append.mpr ⟨hkept, List.pairwise_singleton _ _, ?_⟩
      rintro other ho _ hk
      obtain rfl := List.mem_singleton.mp hk
      obtain ⟨n, hlt, hc⟩ := exists_cameAt (h.mem_keys_iff.mp ho)
      refine ⟨n, ops.length, cameAt_append_singleton.mpr (.inr ⟨hs _, hc⟩), ?_, hlt⟩
      exact cameAt_append_singleton.mpr (.inl ⟨⟨hook, rfl⟩, mt h.mem_keys_iff.mpr hn, rfl⟩)
  client last := by
    rw [h.client, latestClient_append_singleton]
    simp [Operation.SparesClient]

theorem Due.removeDriver [DecidableEq κ] (h : Due ops drivers client) (key : κ) :
    Due (ops ++ [.removeDriver key]) (drivers.filter fun entry => entry.1 ≠ key) client where
  once := h.once.sublist (List.filter_sublist.map _)
  latest other last := by
    rw [List.mem_filter, latest_append_singleton, h.latest, Operation.spares_removeDriver_iff]
    simp [Operation.Adds, and_comm]
  inOrder := by
    have hs {other : κ} (ho : other ∈ (drivers.filter fun entry => entry.1 ≠ key).map (·.1)) :
        (.removeDriver key : Operation κ η).Spares other := by
      obtain ⟨entry, he, rfl⟩ := List.mem_map.mp ho
      exact Operation.spares_removeDriver_iff.mpr (by simpa using (List.mem_filter.mp he).2)
    refine (h.inOrder.sublist (List.filter_sublist.map _)).imp_of_mem fun ha hb hab => ?_
    exact hab.append_singleton (hs ha) (hs hb)
  client last := by
    rw [h.client, latestClient_append_singleton]
    simp [Operation.SparesClient]

theorem Due.of_drivers {next : Option η} (h : Due ops drivers client)
    (hs : ∀ key, op.Spares key) (ha : ∀ key, ¬ op.Adds key)
    (hc : ∀ hook, next = some hook ↔ LatestClient hook (ops ++ [op])) :
    Due (ops ++ [op]) drivers next where
  once := h.once
  latest key hook := by
    have hne : op ≠ .addDriver key hook := fun he => ha key ⟨hook, he⟩
    rw [latest_append_singleton, h.latest]
    simp [hne, hs key, ha key]
  inOrder := h.inOrder.imp fun hb => hb.append_singleton (hs _) (hs _)
  client := hc

theorem Due.setClient (h : Due ops drivers client) (hook : η) :
    Due (ops ++ [.setClient hook]) drivers (some hook) := by
  refine h.of_drivers (fun _ => ⟨nofun, nofun⟩) (fun _ ha => nomatch ha) fun last => ?_
  rw [latestClient_append_singleton]
  simp [Operation.SparesClient]

theorem Due.removeClient (h : Due ops drivers client) :
    Due (ops ++ [.removeClient]) drivers none := by
  refine h.of_drivers (fun _ => ⟨nofun, nofun⟩) (fun _ ha => nomatch ha) fun last => ?_
  rw [latestClient_append_singleton]
  simp [Operation.SparesClient]

theorem due_shutdown (ops : List (Operation κ η)) : Due (ops ++ [.shutdown]) [] none where
  once := .nil
  latest key hook := by
    rw [latest_append_singleton]
    simp [Operation.Spares]
  inOrder := .nil
  client hook := by
    rw [latestClient_append_singleton]
    simp [Operation.SparesClient]

end History

/-! ## Running the hooks -/

structure Watched (κ η ω : Type) where
  registry : Registry κ η := {}
  world : ω
  called : List η := []

namespace Watched

/-- Calls a hook, which acts on the world and not on the registry. -/
def call (hooks : η → Attempt ω Unit) (hook : η) : Attempt (Watched κ η ω) Unit := do
  Attempt.lift (Act.modifyOutside fun w => { w with called := w.called ++ [hook] })
  Attempt.ofResult (Act.within world (fun world w => { w with world }) (hooks hook).result)

def start (trail : Trail ω) : Trail (Watched κ η ω) :=
  { trail with outside := { world := trail.outside } }

def modifyRegistry (f : Registry κ η → Registry κ η) : Act (Watched κ η ω) Unit :=
  Act.modifyOutside fun w => { w with registry := f w.registry }

def perform [DecidableEq κ] (hooks : η → Attempt ω Unit) :
    Operation κ η → Act (Watched κ η ω) Unit
  | .addDriver key hook => modifyRegistry (·.addDriver key hook)
  | .removeDriver key => modifyRegistry (·.removeDriver key)
  | .setClient hook => modifyRegistry (·.setClient hook)
  | .removeClient => modifyRegistry (·.removeClient)
  | .shutdown => shutdownAll registry (fun registry w => { w with registry }) (call hooks)

def performAll [DecidableEq κ] (hooks : η → Attempt ω Unit) (ops : List (Operation κ η)) :
    Act (Watched κ η ω) Unit := ops.forM (perform hooks)

variable {hooks : η → Attempt ω Unit} {trail : Trail (Watched κ η ω)}

theorem call_keeps (hook : η) : (call (κ := κ) hooks hook).Keeps registry := fun _ => rfl

theorem called_runDrivers (due : List η) (trail : Trail (Watched κ η ω)) :
    ((runDrivers (call hooks) due).run trail).2.outside.called = trail.outside.called ++ due := by
  induction due generalizing trail with
  | nil => exact (List.append_nil _).symm
  | cons hook rest ih =>
    obtain ⟨next, hn, hrun⟩ := run_runDrivers_cons (call hooks) hook rest trail
    have hcalled : next.outside.called = trail.outside.called ++ [hook] := by
      rw [hn]
      rfl
    rw [hrun, ih, hcalled, List.append_assoc]
    rfl

theorem called_runClient (client : Option η) (trail : Trail (Watched κ η ω)) :
    ((runClient (call hooks) client).run trail).2.outside.called =
      trail.outside.called ++ client.toList := by
  cases client with
  | none => exact (List.append_nil _).symm
  | some hook =>
    rw [runClient, Act.run_bind]
    split <;> rfl

variable [DecidableEq κ]

theorem registry_shutdown (trail : Trail (Watched κ η ω)) :
    ((perform hooks .shutdown).run trail).2.outside.registry = {} := by
  have hkeeps (drivers : List η) (client : Option η) :
      (runDrivers (call hooks) drivers >>= fun _ => runClient (call hooks) client).Keeps
        (registry : Watched κ η ω → Registry κ η) :=
    .seq (runDrivers_keeps fun hook _ => call_keeps hook) fun _ =>
      runClient_keeps fun hook _ => call_keeps hook
  exact hkeeps _ _ _

theorem called_shutdown (trail : Trail (Watched κ η ω)) :
    ((perform hooks .shutdown).run trail).2.outside.called = trail.outside.called ++
      trail.outside.registry.drivers.map (·.2) ++ trail.outside.registry.client.toList := by
  rw [perform, shutdownAll]
  simp only [Act.run_bind, Act.run_getOutside, Act.run_modifyOutside]
  rw [called_runClient, called_runDrivers]

theorem run_shutdown_of_empty (h : trail.outside.registry = {}) :
    (perform hooks .shutdown).run trail = ((), trail) := by
  obtain ⟨⟨registry, world, called⟩, log, printed, identifiers⟩ := trail
  obtain rfl : registry = {} := h
  rfl

theorem due_perform {ops : List (Operation κ η)}
    (h : Due ops trail.outside.registry.drivers trail.outside.registry.client)
    (op : Operation κ η) :
    let after := ((perform hooks op).run trail).2.outside.registry
    Due (ops ++ [op]) after.drivers after.client := by
  cases op with
  | addDriver key hook => exact h.addDriver key hook
  | removeDriver key => exact h.removeDriver key
  | setClient hook => exact h.setClient hook
  | removeClient => exact h.removeClient
  | shutdown =>
    intro after
    have hafter : after = {} := registry_shutdown trail
    rw [hafter]
    exact due_shutdown ops

/-- At any time the registry holds what is due. -/
theorem due_performAll (hooks : η → Attempt ω Unit) (ops : List (Operation κ η))
    (trail : Trail ω) :
    let after := ((performAll hooks ops).run (start trail)).2.outside.registry
    Due ops after.drivers after.client := by
  induction ops using List.reverseRecOn with
  | nil => exact due_nil
  | append_singleton ops op ih =>
    have hrun : performAll hooks (ops ++ [op]) =
        performAll hooks ops >>= fun _ => perform hooks op := by
      simp [performAll]
    rw [hrun, Act.run_bind]
    exact due_perform ih op

end Watched

/-- After any operations there is one thing due, and a shutdown calls exactly that, whatever the
hooks do. It leaves nothing registered, so that another shutdown does nothing. -/
theorem shutdown_calls_due [DecidableEq κ] (hooks : η → Attempt ω Unit)
    (ops : List (Operation κ η)) (trail : Trail ω) :
    let before := ((Watched.performAll hooks ops).run (Watched.start trail)).2
    let after := ((Watched.perform hooks .shutdown).run before).2
    (∃ drivers client, Due ops drivers client) ∧
      (∀ drivers client, Due ops drivers client → after.outside.called =
        before.outside.called ++ drivers.map (·.2) ++ client.toList) ∧
      after.outside.registry = {} ∧
      (Watched.perform hooks .shutdown).run after = ((), after) := by
  intro before after
  have hdue : Due ops before.outside.registry.drivers before.outside.registry.client :=
    Watched.due_performAll hooks ops trail
  have hempty : after.outside.registry = {} := Watched.registry_shutdown before
  refine ⟨⟨_, _, hdue⟩, fun drivers client h => ?_, hempty, Watched.run_shutdown_of_empty hempty⟩
  obtain ⟨rfl, rfl⟩ := h.unique hdue
  exact Watched.called_shutdown before

/-- Driver 1 is given another hook, driver 2 leaves and comes back, and every hook fails. -/
example :
    let ops : List (Operation Nat String) :=
      [.addDriver 1 "a", .setClient "c", .addDriver 2 "b", .addDriver 3 "d", .addDriver 1 "e",
        .removeDriver 2, .addDriver 2 "f", .shutdown, .shutdown]
    ((Watched.performAll (fun _ => throw .closedConnection) ops).run
      (Watched.start { outside := () })).2.outside.called = ["e", "d", "f", "c"] := by
  decide +kernel

end AgentReporting.Registry
