import AgentReporting.Proofs.Outbox.Posting

/-! # Draining an outbox

Without producers the consumer takes what was submitted before, until nothing is left.
What it leaves behind is put together from its turns, one by one or in batches.
-/

namespace AgentReporting

variable {σ τ : Type}

namespace Outbox

variable (mode : Mode) (capacity : Int)

def fresh : Outbox := { mode, capacity }

/-- Submits reports; a wake mark stands for a request to stop. -/
def load : List Parcel → Outbox → Outbox
  | [], outbox => outbox
  | .wake :: rest, outbox => load rest outbox.stop
  | .report route report :: rest, outbox => load rest (outbox.submit route report)

theorem load_eq (queued parcels : List Parcel) :
    load parcels { mode, capacity, parcels := queued } =
      { mode, capacity, parcels := queued ++ parcels } := by
  induction parcels generalizing queued with
  | nil => rw [load, List.append_nil]
  | cons parcel rest ih =>
    cases parcel with
    | wake =>
      rw [load]
      exact (ih (queued ++ [.wake])).trans (by rw [List.append_assoc, List.singleton_append])
    | report route report =>
      rw [load]
      refine (ih (queued ++ [.report route report])).trans ?_
      rw [List.append_assoc, List.singleton_append]

theorem load_fresh (parcels : List Parcel) :
    load parcels (fresh mode capacity) = { mode, capacity, parcels } :=
  load_eq mode capacity [] parcels

structure Unattended (outbox : Outbox) : Prop where
  mode : outbox.mode = mode
  running : outbox.running = false
  cancelled : outbox.cancelled = false

end Outbox

def halted : Option Fault → Except Fault Unit
  | none => .ok ()
  | some fault => .error fault

theorem halted_eq_ok_iff {stop : Option Fault} : halted stop = .ok () ↔ stop = none := by
  cases stop with
  | none => simp [halted]
  | some fault => simp [halted]

theorem halted_eq_error_iff {stop : Option Fault} {fault : Fault} :
    halted stop = .error fault ↔ stop = some fault := by
  cases stop with
  | none => simp [halted]
  | some other => simp [halted]

namespace Desk

/-- What a consumer does turn by turn: each turn takes parcels from the front, for which `R`
tells what is left behind, and which fault stops the consumer. -/
structure Handles (post : Post σ) (mode : Mode)
    (R : List Parcel → Option Fault → Trail σ → Trail σ → Prop) : Prop where
  nothing : ∀ trail, R [] none trail trail
  append : ∀ {xs ys stop first second third}, R xs none first second →
    R ys stop second third → R (xs ++ ys) stop first third
  turn : ∀ desk : Desk σ, desk.outbox.Unattended mode → desk.outbox.parcels ≠ [] →
    let done := desk.run (Outbox.handleLogged post)
    done.2.outbox.Unattended mode ∧ ∃ taken stop, done.1 = halted stop ∧ taken ≠ [] ∧
      desk.outbox.parcels = taken ++ done.2.outbox.parcels ∧ R taken stop desk.trail done.2.trail

variable {post : Post σ} {mode : Mode}
  {R : List Parcel → Option Fault → Trail σ → Trail σ → Prop}

theorem run_finish (desk : Desk σ) {outbox : Outbox} (h : outbox.parcels = []) :
    desk.run (do Outbox.finish (σ := σ) outbox; return Except.ok (ε := Fault) ()) =
      (.ok (), desk) := by
  simp only [run_bind, run_liftM, Outbox.finish, Outbox.waiting, h]
  rfl

theorem Handles.run_drain (h : Handles post mode R) (fuel : Nat) (desk : Desk σ)
    (hu : desk.outbox.Unattended mode) (hf : desk.outbox.parcels.length ≤ fuel) :
    let done := desk.run (Outbox.drain post fuel)
    ∃ taken stop, done.1 = halted stop ∧
      desk.outbox.parcels = taken ++ done.2.outbox.parcels ∧
      (stop = none → done.2.outbox.parcels = []) ∧ R taken stop desk.trail done.2.trail := by
  induction fuel generalizing desk with
  | zero =>
    have he := List.length_eq_zero_iff.mp (Nat.le_zero.mp hf)
    dsimp only
    rw [Outbox.drain, run_bind, run_get, desk.run_finish he]
    exact ⟨[], none, rfl, rfl, fun _ => he, h.nothing _⟩
  | succ fuel ih =>
    dsimp only
    rw [Outbox.drain, run_bind, run_get]
    by_cases he : desk.outbox.parcels = []
    · simp only [he, List.isEmpty_nil, Bool.not_true, Bool.and_false, Bool.false_eq_true, if_false]
      rw [desk.run_finish he]
      exact ⟨[], none, rfl, he.symm, fun _ => he, h.nothing _⟩
    have hgo : (desk.outbox.goesOn && !desk.outbox.parcels.isEmpty) = true := by
      simp [Outbox.goesOn, hu.running, hu.cancelled, he]
    obtain ⟨hu', taken, stop, ha, ht, hp, hr⟩ := h.turn desk hu he
    rw [if_pos hgo, run_bind, ha]
    -- the fuel lasts, as every turn takes at least one parcel
    have hlen : (desk.run (Outbox.handleLogged post)).2.outbox.parcels.length ≤ fuel := by
      have hpos := List.length_pos_iff.mpr ht
      rw [hp, List.length_append] at hf
      omega
    cases stop with
    | some fault =>
      refine ⟨taken, some fault, rfl, hp, ?_, hr⟩
      exact fun hn => nomatch hn
    | none =>
      obtain ⟨later, stop, hok, hp', hnil, hrest⟩ := ih _ hu' hlen
      refine ⟨taken ++ later, stop, hok, ?_, hnil, h.append hr hrest⟩
      rw [hp, List.append_assoc]
      exact congrArg (taken ++ ·) hp'

/-- A run on a loaded outbox takes all that is in it, unless a fault stops it. -/
theorem Handles.run (h : Handles post mode R) (capacity : Int) (parcels : List Parcel)
    (trail : Trail σ) :
    let done := Desk.run ⟨Outbox.load parcels (.fresh mode capacity), trail⟩ (Outbox.run post)
    ∃ taken stop, done.1 = halted stop ∧ parcels = taken ++ done.2.outbox.parcels ∧
      (stop = none → done.2.outbox.parcels = []) ∧ R taken stop trail done.2.trail := by
  rw [Outbox.load_fresh]
  exact h.run_drain _ _ ⟨rfl, rfl, rfl⟩ (Nat.le_refl _)

theorem Handles.run_whole (h : Handles post mode R)
    (hnone : ∀ {taken stop before after}, R taken stop before after → stop = none)
    (capacity : Int) (parcels : List Parcel) (trail : Trail σ) :
    let done := Desk.run ⟨Outbox.load parcels (.fresh mode capacity), trail⟩ (Outbox.run post)
    done.1 = .ok () ∧ done.2.outbox.parcels = [] ∧ R parcels none trail done.2.trail := by
  obtain ⟨taken, stop, hok, hp, hnil, hr⟩ := h.run capacity parcels trail
  obtain rfl := hnone hr
  have he := hnil rfl
  rw [he, List.append_nil] at hp
  exact ⟨hok, he, hp ▸ hr⟩

/-! ## One by one -/

/-- Delivery one by one puts up with every outcome that a recipient gives. -/
def Tolerable (recipient : Recipient τ) : Prop :=
  ∀ delivery, recipient.Answers delivery → tolerated delivery.outcome = true

theorem Tolerable.not_breaks {recipient : Recipient τ} (h : Tolerable recipient)
    {deliveries : List Delivery} {fault : Fault} : ¬ Breaks recipient deliveries fault := by
  rintro ⟨delivery, -, ha, -, ht⟩
  rw [h delivery ha] at ht
  cases ht

def TransferOnly (recipient : Recipient τ) : Prop :=
  ∀ delivery fault, recipient.Answers delivery → delivery.outcome = .error fault →
    fault.isTransfer = true

theorem TransferOnly.tolerable {recipient : Recipient τ} (h : TransferOnly recipient) :
    Tolerable recipient := by
  intro delivery ha
  cases ho : delivery.outcome with
  | ok status => rfl
  | error fault => rw [tolerated, h delivery fault ha ho, Bool.true_or]

/-- Each report that can be written is posted once, in its turn, and nothing stops the
consumer. -/
theorem handles_single {recipient : Recipient τ} (h : Tolerable recipient) :
    Handles recipient.post .single fun parcels stop before after =>
      stop = none ∧ after.outside.posts.map Delivery.sent =
        before.outside.posts.map Delivery.sent ++
          (parcels.filterMap (·.item?)).filterMap written? where
  nothing trail := ⟨rfl, by simp⟩
  append := by
    rintro xs ys stop first second third ⟨-, hx⟩ ⟨hstop, hy⟩
    refine ⟨hstop, ?_⟩
    simp [hx, hy]
  turn desk hu hp := by
    obtain ⟨parcel, rest, hp⟩ := List.exists_cons_of_ne_nil hp
    obtain ⟨deliveries, hd, hs, hb⟩ := run_take recipient desk hu.mode hp
    generalize desk.run (Outbox.handleLogged recipient.post) = done at hd hb
    obtain ⟨answer, after⟩ := done
    obtain ⟨failures, disabled, ho⟩ := hd.outbox
    have hposts : after.trail.outside.posts = desk.trail.outside.posts ++ deliveries := hd.posts
    refine ⟨?_, [parcel], none, ?_, List.cons_ne_nil _ _, ?_, rfl, ?_⟩
    · rw [ho]
      exact ⟨hu.mode, hu.running, hu.cancelled⟩
    · cases answer with
      | ok => rfl
      | error fault => exact absurd (hb fault rfl) h.not_breaks
    · rw [ho, hp]
      rfl
    · rw [hposts, List.map_append, hs]
      cases hi : parcel.item? with
      | none => simp [hi]
      | some item => cases hw : written? item <;> simp [hi, hw]

end Desk

end AgentReporting
