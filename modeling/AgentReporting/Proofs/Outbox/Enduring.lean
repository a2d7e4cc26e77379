import AgentReporting.Proofs.Outbox.Batching

/-! # What the consumers put up with

Delivery one by one puts up with requests that fail and with values that do not fit.
Delivery in batches puts up with requests that fail only: any other fault stops the
consumer, and the reports that still wait are never attempted.
-/

namespace AgentReporting

variable {τ : Type}

/-! ## Batch after batch, until a fault -/

/-- Batches are attempted in turn, until a fault breaks one of them off. -/
inductive Heeded (attempts : Nat) : List Batch → Option Fault → Prop
  | nil : Heeded attempts [] none
  | cons {batch batches stop} : Heard attempts batch.outcomes none →
      Heeded attempts batches stop → Heeded attempts (batch :: batches) stop
  | broken {batch fault} : Heard attempts batch.outcomes (some fault) →
      Heeded attempts [batch] (some fault)

namespace Heeded

variable {attempts : Nat} {bs cs : List Batch} {stop : Option Fault}

theorem append (h : Heeded attempts bs none) (h' : Heeded attempts cs stop) :
    Heeded attempts (bs ++ cs) stop := by
  generalize hn : (none : Option Fault) = first at h
  induction h with
  | nil => exact h'
  | cons hb _ ih => exact .cons hb (ih hn)
  | broken _ => cases hn

theorem tried (h : Heeded attempts bs none) : ∀ batch ∈ bs, Tried attempts batch.outcomes ∧
    ∀ outcome ∈ batch.outcomes, endured outcome = true := by
  generalize hn : (none : Option Fault) = stop at h
  induction h with
  | nil => exact fun _ hm => nomatch hm
  | cons hb _ ih => exact List.forall_mem_cons.mpr ⟨hb.of_none, ih hn⟩
  | broken _ => cases hn

theorem last (route : String) {fault : Fault} (h : Heeded attempts bs (some fault)) :
    fault.isTransfer = false ∧ ∃ earlier delivery,
      bs.flatMap (·.deliveries route) = earlier ++ [delivery] ∧
        delivery.outcome = .error fault := by
  generalize hs : some fault = stop at h
  induction h with
  | nil => cases hs
  | @cons batch batches stop _ _ ih =>
    obtain ⟨hf, earlier, delivery, he, ho⟩ := ih hs
    refine ⟨hf, batch.deliveries route ++ earlier, delivery, ?_, ho⟩
    rw [List.flatMap_cons, he, List.append_assoc]
  | @broken batch other hb =>
    cases hs
    obtain ⟨hf, failed, hfailed⟩ := hb.of_some
    refine ⟨hf, failed.map fun outcome => ⟨route, batch.body, outcome⟩,
      ⟨route, batch.body, .error fault⟩, ?_, rfl⟩
    simp [Batch.deliveries, hfailed]

end Heeded

structure Endures (route : String) (attempts : Int) (drained : List Report)
    (batches : List Batch) (stop : Option Fault) (before after : Trail (Noted τ)) : Prop where
  posts : after.outside.posts = before.outside.posts ++ batches.flatMap (·.deliveries route)
  whole : batches.flatMap (·.payloads) = payloads drained
  nonempty : ∀ batch ∈ batches, batch.payloads ≠ []
  heeded : Heeded attempts.toNat batches stop
  /-- All else that a recipient may raise is a failed request. -/
  value : ∀ fault, stop = some fault → fault.isValueFault = true

namespace Endures

variable {route : String} {attempts : Int} {xs ys : List Report} {bs cs : List Batch}
  {stop : Option Fault} {first second third : Trail (Noted τ)}

theorem nothing (he : payloads xs = []) (hp : second.outside.posts = first.outside.posts) :
    Endures route attempts xs [] none first second := by
  refine ⟨?_, he.symm, ?_, .nil, ?_⟩
  · simpa using hp
  · exact fun _ hb => nomatch hb
  · exact fun _ hs => nomatch hs

theorem single {batch : Batch} (hp : second.outside.posts =
      first.outside.posts ++ batch.deliveries route) (hn : payloads batch.drained ≠ [])
    (hh : Heeded attempts.toNat [batch] stop)
    (hv : ∀ fault, stop = some fault → fault.isValueFault = true) :
    Endures route attempts batch.drained [batch] stop first second := by
  refine ⟨?_, ?_, ?_, hh, hv⟩
  · simpa using hp
  · simp [Batch.payloads]
  · simpa [Batch.payloads] using hn

theorem append (h : Endures route attempts xs bs none first second)
    (h' : Endures route attempts ys cs stop second third) :
    Endures route attempts (xs ++ ys) (bs ++ cs) stop first third := by
  refine ⟨?_, ?_, ?_, h.heeded.append h'.heeded, h'.value⟩
  · rw [h'.posts, h.posts, List.flatMap_append, List.append_assoc]
  · rw [List.flatMap_append, h.whole, h'.whole, payloads_append]
  · exact List.forall_mem_append.mpr ⟨h.nonempty, h'.nonempty⟩

end Endures

/-! ## The consumer -/

variable {recipient : Recipient τ} {route : String} {size attempts : Int}

theorem turn_endures (h : Desk.Tolerable recipient) (desk : Desk (Noted τ)) {parcel : Parcel}
    {rest : List Parcel} (hm : desk.outbox.mode = .batch route size attempts)
    (hp : desk.outbox.parcels = parcel :: rest) :
    let done := desk.run (Outbox.handleLogged recipient.post)
    ∃ batches stop, done.1 = halted stop ∧
      Endures route attempts ((parcel :: rest.take (size.toNat - 1)).filterMap (·.report?))
        batches stop desk.trail done.2.trail := by
  obtain ⟨-, hd⟩ := run_handleLogged h desk hm hp
  rcases hd with ⟨he, hok, hsends⟩ | ⟨hne, batch, stop, hdrained, hheard, -, hv, hsends, hok⟩
  · refine ⟨[], none, hok, .nothing he ?_⟩
    simpa using hsends.posts
  · have hheeded : Heeded attempts.toNat [batch] stop := by
      cases stop with
      | none => exact .cons hheard .nil
      | some fault => exact .broken hheard
    rw [← hdrained] at hne ⊢
    exact ⟨[batch], stop, hok, .single hsends.posts hne hheeded hv⟩

/-- Turn after turn, batches are attempted until one is broken off. -/
theorem handles_batch_tolerable (h : Desk.Tolerable recipient) :
    Desk.Handles recipient.post (.batch route size attempts) fun parcels stop before after =>
      ∃ batches,
        Endures route attempts (parcels.filterMap (·.report?)) batches stop before after where
  nothing trail := ⟨[], .nothing rfl rfl⟩
  append := by
    rintro xs ys stop first second third ⟨bs, hb⟩ ⟨cs, hc⟩
    rw [List.filterMap_append]
    exact ⟨bs ++ cs, hb.append hc⟩
  turn desk hu hp := by
    obtain ⟨parcel, rest, hp⟩ := List.exists_cons_of_ne_nil hp
    obtain ⟨ho, -⟩ := run_handleLogged h desk hu.mode hp
    obtain ⟨batches, stop, hok, hc⟩ := turn_endures h desk hu.mode hp
    dsimp only
    rw [ho]
    refine ⟨⟨hu.mode, hu.running, hu.cancelled⟩, _, stop, hok, List.cons_ne_nil _ _, ?_,
      batches, hc⟩
    rw [hp, List.cons_append, List.take_append_drop]

/-! ## Against delivery one by one -/

/-- A run ended, left nothing behind, and attempted each report that can be written. -/
structure Completes (route : String) (reports : List Report) (batches : List Batch)
    (done : Except Fault Unit × Desk (Noted τ)) : Prop where
  answer : done.1 = .ok ()
  drained : done.2.outbox.parcels = []
  posts : done.2.posts = batches.flatMap (·.deliveries route)
  payloads : batches.flatMap (·.payloads) = payloads reports
  attempted : ∀ batch ∈ batches, batch.outcomes ≠ []

/-- A run in batches: those that were attempted, and the fault that stopped it if there was one.
The reports that were not drained still wait. -/
structure Ran (route : String) (attempts : Int) (reports : List Report) (batches : List Batch)
    (stop : Option Fault) (world : τ) (done : Except Fault Unit × Desk (Noted τ)) : Prop where
  answer : done.1 = halted stop
  drained : stop = none → done.2.outbox.parcels = []
  endures : ∃ drained, reports = drained ++ done.2.outbox.waiting ∧
    Endures route attempts drained batches stop { outside := { world } } done.2.trail

theorem run_batched (h : Desk.Tolerable recipient) (route : String)
    (size attempts capacity : Int) (parcels : List Parcel) (world : τ) :
    ∃ (batches : List Batch) (stop : Option Fault),
      Ran route attempts (parcels.filterMap (·.report?)) batches stop world (Desk.run
        ⟨Outbox.load parcels (.fresh (.batch route size attempts) capacity),
          { outside := { world } }⟩
        (Outbox.run recipient.post)) := by
  obtain ⟨taken, stop, hok, hp, hnil, batches, ha⟩ :=
    (handles_batch_tolerable h).run capacity parcels { outside := { world } }
  refine ⟨batches, stop, hok, hnil, taken.filterMap (·.report?), ?_, ha⟩
  exact (congrArg (List.filterMap (·.report?)) hp).trans List.filterMap_append

def attemptsOf (attempts : Int) : Int :=
  if attempts = 0 then Mode.defaultAttempts else attempts

theorem toNat_attemptsOf_pos_iff (attempts : Int) :
    0 < (attemptsOf attempts).toNat ↔ 0 ≤ attempts := by
  unfold attemptsOf
  by_cases hz : attempts = 0
  · rw [if_pos hz, hz]
    decide
  · rw [if_neg hz]
    omega

theorem Tried.ne_nil {attempts : Nat} {outcomes : List (Except Fault Nat)} (hpos : 0 < attempts)
    (h : Tried attempts outcomes) : outcomes ≠ [] := by
  rcases h with ⟨hlen, -⟩ | ⟨failed, last, rfl, -, -, -⟩
  · rintro rfl
    exact absurd hlen (Nat.ne_of_lt hpos)
  · simp

theorem Tried.eq_nil {outcomes : List (Except Fault Nat)} (h : Tried 0 outcomes) :
    outcomes = [] := by
  rcases h with ⟨hlen, -⟩ | ⟨failed, last, -, hlen, -, -⟩
  · exact List.length_eq_zero_iff.mp hlen
  · exact absurd hlen (Nat.not_lt_zero _)

theorem endured_eq_false_of_isValueFault {fault : Fault} (h : fault.isValueFault = true) :
    endured (.error fault) = false := by
  cases fault with
  | transfer kind text => cases h
  | _ => rfl

namespace Endures

variable {drained : List Report} {batches : List Batch} {stop : Option Fault}
  {before after : Trail (Noted τ)}

/-- Nothing stopped the consumer just in case it put up with the outcome of each post. -/
theorem stop_eq_none_iff (h : Endures route attempts drained batches stop before after) :
    stop = none ↔
      ∀ delivery ∈ batches.flatMap (·.deliveries route), endured delivery.outcome = true := by
  constructor
  · rintro rfl
    intro delivery hd
    obtain ⟨batch, hb, hd⟩ := List.mem_flatMap.mp hd
    obtain ⟨outcome, ho, rfl⟩ := List.mem_map.mp hd
    exact (h.heeded.tried batch hb).2 outcome ho
  · intro hall
    cases stop with
    | none => rfl
    | some fault =>
      obtain ⟨-, earlier, delivery, he, ho⟩ := h.heeded.last route
      have hlast := hall delivery (by simp [he])
      rw [ho, endured_eq_false_of_isValueFault (h.value fault rfl)] at hlast
      cases hlast

theorem ne_nil (h : Endures route attempts drained batches none before after)
    (hpos : 0 < attempts.toNat) : ∀ batch ∈ batches, batch.outcomes ≠ [] :=
  fun batch hb => (h.heeded.tried batch hb).1.ne_nil hpos

theorem posts_eq_nil (h : Endures route attempts drained batches none before after)
    (hzero : attempts.toNat = 0) : batches.flatMap (·.deliveries route) = [] := by
  refine List.flatMap_eq_nil_iff.mpr ?_
  intro batch hb
  have ht := (h.heeded.tried batch hb).1
  rw [hzero] at ht
  rw [Batch.deliveries, ht.eq_nil, List.map_nil]

end Endures

/-- A run that completes although no attempts are made had nothing to post. -/
theorem Completes.payloads_eq_nil {reports : List Report} {batches : List Batch}
    {done : Except Fault Unit × Desk (Noted τ)} (h : Completes route reports batches done)
    (hp : done.2.posts = []) : AgentReporting.payloads reports = [] := by
  rw [h.posts, List.flatMap_eq_nil_iff] at hp
  rw [← h.payloads, List.flatMap_eq_nil_iff]
  intro batch hb
  exact absurd (List.map_eq_nil_iff.mp (hp batch hb)) (h.attempted batch hb)

namespace Ran

variable {reports : List Report} {batches : List Batch} {stop : Option Fault} {world : τ}
  {done : Except Fault Unit × Desk (Noted τ)}

theorem posts (h : Ran route attempts reports batches stop world done) :
    done.2.posts = batches.flatMap (·.deliveries route) := by
  obtain ⟨drained, -, he⟩ := h.endures
  exact he.posts

theorem payloads (h : Ran route attempts reports batches stop world done) :
    payloads reports = batches.flatMap (·.payloads) ++ payloads done.2.outbox.waiting := by
  obtain ⟨drained, hr, he⟩ := h.endures
  rw [hr, payloads_append, he.whole]

theorem stop_eq_none_iff (h : Ran route attempts reports batches stop world done) :
    stop = none ↔ ∀ delivery ∈ done.2.posts, endured delivery.outcome = true := by
  obtain ⟨drained, -, he⟩ := h.endures
  rw [h.posts]
  exact he.stop_eq_none_iff

theorem completes (h : Ran route attempts reports batches none world done)
    (hmade : 0 < attempts.toNat ∨ AgentReporting.payloads reports = []) :
    Completes route reports batches done := by
  obtain ⟨drained, -, he⟩ := h.endures
  have hpayloads := h.payloads
  rw [Outbox.waiting, h.drained rfl] at hpayloads
  have hwhole : AgentReporting.payloads reports = batches.flatMap (·.payloads) := by
    simpa [AgentReporting.payloads] using hpayloads
  refine ⟨h.answer, h.drained rfl, h.posts, hwhole.symm, ?_⟩
  rcases hmade with hpos | hnothing
  · exact he.ne_nil hpos
  · intro batch hb
    rw [hnothing] at hwhole
    exact absurd (List.flatMap_eq_nil_iff.mp hwhole.symm batch hb) (he.nonempty batch hb)

theorem completes_iff (h : Ran route attempts reports batches stop world done) :
    (∃ others, Completes route reports others done) ↔
      (∀ delivery ∈ done.2.posts, endured delivery.outcome = true) ∧
        (0 < attempts.toNat ∨ AgentReporting.payloads reports = []) := by
  rw [← h.stop_eq_none_iff]
  constructor
  · rintro ⟨others, hc⟩
    obtain rfl := halted_eq_ok_iff.mp (h.answer.symm.trans hc.answer)
    refine ⟨rfl, ?_⟩
    rcases Nat.eq_zero_or_pos attempts.toNat with hzero | hpos
    · obtain ⟨drained, -, he⟩ := h.endures
      exact .inr (hc.payloads_eq_nil (h.posts.trans (he.posts_eq_nil hzero)))
    · exact .inl hpos
  · rintro ⟨rfl, hmade⟩
    exact ⟨batches, h.completes hmade⟩

theorem error_iff (h : Ran route attempts reports batches stop world done) (fault : Fault) :
    done.1 = .error fault ↔ ∃ earlier delivery, done.2.posts = earlier ++ [delivery] ∧
      delivery.outcome = .error fault ∧ fault.isValueFault = true := by
  obtain ⟨drained, -, hendures⟩ := h.endures
  rw [h.answer, halted_eq_error_iff]
  constructor
  · rintro rfl
    obtain ⟨-, earlier, delivery, he, ho⟩ := hendures.heeded.last route
    exact ⟨earlier, delivery, h.posts.trans he, ho, hendures.value fault rfl⟩
  · rintro ⟨earlier, delivery, he, ho, hv⟩
    cases stop with
    | none =>
      have hlast := h.stop_eq_none_iff.mp rfl delivery (by simp [he])
      rw [ho, endured_eq_false_of_isValueFault hv] at hlast
      cases hlast
    | some other =>
      obtain ⟨-, earlier', delivery', he', ho'⟩ := hendures.heeded.last route
      obtain ⟨-, hd⟩ := List.append_inj' (he.symm.trans (h.posts.trans he')) rfl
      cases hd
      rw [ho] at ho'
      cases ho'
      rfl

end Ran

/-- Whatever the recipient does that delivery one by one puts up with, delivery in batches
completes just in case no post ended in a fault about a value, and attempts are made at all. -/
theorem batches_complete_iff {recipient : Recipient τ} (h : Desk.Tolerable recipient)
    (route : String) (size attempts capacity : Int) (parcels : List Parcel) (world : τ) :
    let reports := parcels.filterMap (·.report?)
    let single := Desk.run
      ⟨Outbox.load parcels (.fresh .single capacity), { outside := { world } }⟩
      (Outbox.run recipient.post)
    let batched := Desk.run
      ⟨Outbox.load parcels (.fresh (.batchOf route size attempts) capacity),
        { outside := { world } }⟩
      (Outbox.run recipient.post)
    (single.1 = .ok () ∧ single.2.outbox.parcels = []) ∧
      ((∃ batches, Completes route reports batches batched) ↔
        (∀ delivery ∈ batched.2.posts, endured delivery.outcome = true) ∧
          (0 ≤ attempts ∨ payloads reports = [])) ∧
      (∀ fault, batched.1 = .error fault ↔ ∃ earlier delivery,
        batched.2.posts = earlier ++ [delivery] ∧ delivery.outcome = .error fault ∧
          fault.isValueFault = true) ∧
      ∃ batches : List Batch, batched.2.posts = batches.flatMap (·.deliveries route) ∧
        payloads reports = batches.flatMap (·.payloads) ++ payloads batched.2.outbox.waiting := by
  intro reports single batched
  obtain ⟨hok, hnil, -⟩ := (Desk.handles_single h).run_whole And.left capacity parcels
    { outside := { world } }
  obtain ⟨batches, stop, hran⟩ :=
    run_batched h route (max 1 size) (attemptsOf attempts) capacity parcels world
  change Ran route (attemptsOf attempts) reports batches stop world batched at hran
  have hcompletes := hran.completes_iff
  rw [toNat_attemptsOf_pos_iff] at hcompletes
  exact ⟨⟨hok, hnil⟩, hcompletes, hran.error_iff, batches, hran.posts, hran.payloads⟩

/-- A recipient that takes what is posted, apart from what it cannot read where there is a mark. -/
def careless : Recipient (List Bool) := fun _ _ world =>
  match world with
  | [] => (.ok 200, [])
  | false :: rest => (.ok 200, rest)
  | true :: rest => (.error (.foreign .value "bad"), rest)

theorem careless_tolerable : Desk.Tolerable careless := by
  rintro delivery ⟨world, hw⟩
  rw [← hw]
  match world with
  | [] => rfl
  | false :: rest => rfl
  | true :: rest => rfl

/-- The second of two batches ends in a fault about a value, and the run with it. -/
theorem second_batch_stops_run :
    let test (name : String) := Parcel.report "/tests" (.test { name })
    let parcels := [test "a", test "b", test "c", .wake]
    let batched := Desk.run
      ⟨Outbox.load parcels (.fresh (.batchOf "/batches" 2 3) 8),
        { outside := { world := [false, true] } }⟩
      (Outbox.run careless.post)
    batched.2.posts.map (arrived ·.outcome) = [true, false] ∧
      batched.1 = .error (.foreign .value "bad") ∧
      ¬ ∃ batches, Completes "/batches" (parcels.filterMap (·.report?)) batches batched := by
  intro test parcels batched
  obtain ⟨-, hcomplete, hstop, -⟩ := batches_complete_iff careless_tolerable "/batches" 2 3 8
    parcels [false, true]
  refine ⟨rfl, (hstop _).mpr ⟨_, _, rfl, rfl, rfl⟩, ?_⟩
  rw [hcomplete]
  rintro ⟨hall, -⟩
  exact absurd (hall ⟨_, _, .error (.foreign .value "bad")⟩ (.tail _ (.head _))) (by decide)

/-- One by one, both reports are posted and the run ends; in batches, the fault of the first
post ends the consumer, and the second report is never attempted. -/
theorem value_fault_loses_reports :
    let test (name : String) := Parcel.report "/tests" (.test { name })
    let parcels := [test "a", test "b", .wake]
    let single := Desk.run
      ⟨Outbox.load parcels (.fresh .single 8), { outside := { world := [true] } }⟩
      (Outbox.run careless.post)
    let batched := Desk.run
      ⟨Outbox.load parcels (.fresh (.batchOf "/batches" 1 1) 8),
        { outside := { world := [true] } }⟩
      (Outbox.run careless.post)
    Desk.Tolerable careless ∧ single.1 = .ok () ∧ single.2.outbox.parcels = [] ∧
      single.2.posts.length = 2 ∧ batched.1 = .error (.foreign .value "bad") ∧
      batched.2.posts.length = 1 ∧ batched.2.outbox.waiting.map (·.title) = ["b"] :=
  ⟨careless_tolerable, rfl, rfl, rfl, rfl, rfl, rfl⟩

end AgentReporting
