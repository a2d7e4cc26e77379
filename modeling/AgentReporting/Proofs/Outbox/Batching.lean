import AgentReporting.Proofs.Outbox.Draining

/-! # Delivery in batches

An outbox that posts in batches posts the payloads that are posted one by one, in the
same order. A batch is repeated until it arrives or its attempts are used up; one that
never arrives is given up with a line in the log, and the next batch follows.
-/

namespace AgentReporting

variable {τ ρ : Type}

def arrived : Except Fault Nat → Bool
  | .ok status => isSuccessStatus status
  | .error _ => false

/-- Posts are made until the first success, or until all attempts have failed. -/
def Tried (attempts : Nat) (outcomes : List (Except Fault Nat)) : Prop :=
  (outcomes.length = attempts ∧ ∀ outcome ∈ outcomes, arrived outcome = false) ∨
    ∃ failed last, outcomes = failed ++ [last] ∧ failed.length < attempts ∧
      (∀ outcome ∈ failed, arrived outcome = false) ∧ arrived last = true

theorem Tried.failure {attempts : Nat} {outcome : Except Fault Nat}
    {outcomes : List (Except Fault Nat)} (ho : arrived outcome = false)
    (h : Tried attempts outcomes) : Tried (attempts + 1) (outcome :: outcomes) := by
  rcases h with ⟨hlen, hall⟩ | ⟨failed, last, rfl, hlen, hall, hlast⟩
  · left
    simpa [hlen, ho] using hall
  · right
    refine ⟨outcome :: failed, last, rfl, ?_, ?_, hlast⟩
    · simpa using hlen
    · simpa [ho] using hall

/-- Whether the attempts at a batch go on after a post with this outcome. -/
def endured : Except Fault Nat → Bool
  | .ok _ => true
  | .error fault => fault.isTransfer

/-- What is heard of the attempts at a batch, and the fault that breaks them off. -/
inductive Heard (attempts : Nat) : List (Except Fault Nat) → Option Fault → Prop
  | tried {outcomes} : Tried attempts outcomes → (∀ outcome ∈ outcomes, endured outcome = true) →
      Heard attempts outcomes none
  | broken {failed fault} : failed.length < attempts →
      (∀ outcome ∈ failed, endured outcome = true) → fault.isTransfer = false →
      Heard attempts (failed ++ [.error fault]) (some fault)

namespace Heard

variable {attempts : Nat} {outcome : Except Fault Nat} {outcomes : List (Except Fault Nat)}
  {stop : Option Fault}

theorem none_left : Heard 0 [] none :=
  .tried (.inl ⟨rfl, fun _ hm => nomatch hm⟩) fun _ hm => nomatch hm

theorem success (he : endured outcome = true) (ho : arrived outcome = true) :
    Heard (attempts + 1) [outcome] none := by
  refine .tried (.inr ⟨[], outcome, rfl, Nat.succ_pos _, ?_, ho⟩) ?_
  · exact fun _ hm => nomatch hm
  · simpa using he

theorem failure (he : endured outcome = true) (ho : arrived outcome = false)
    (h : Heard attempts outcomes stop) : Heard (attempts + 1) (outcome :: outcomes) stop := by
  cases h with
  | tried ht hall => exact .tried (ht.failure ho) (by simpa [he] using hall)
  | @broken failed fault hlen hall hf =>
    refine @Heard.broken _ (outcome :: failed) fault ?_ ?_ hf
    · simpa using hlen
    · simpa [he] using hall

theorem of_none (h : Heard attempts outcomes none) :
    Tried attempts outcomes ∧ ∀ outcome ∈ outcomes, endured outcome = true := by
  cases h with
  | tried ht he => exact ⟨ht, he⟩

theorem of_some {fault : Fault} (h : Heard attempts outcomes (some fault)) :
    fault.isTransfer = false ∧ ∃ failed, outcomes = failed ++ [.error fault] := by
  cases h with
  | broken _ _ hf => exact ⟨hf, _, rfl⟩

theorem of_endured (h : Heard attempts outcomes stop)
    (he : ∀ outcome ∈ outcomes, endured outcome = true) :
    stop = none ∧ Tried attempts outcomes := by
  cases stop with
  | none => exact ⟨rfl, h.of_none.1⟩
  | some fault =>
    obtain ⟨hf, failed, rfl⟩ := h.of_some
    have hlast := he _ (List.mem_append_right _ (List.mem_singleton_self _))
    rw [endured, hf] at hlast
    cases hlast

end Heard

/-- The reports among those drained from an outbox that can be written. -/
def payloads (drained : List Report) : List Value :=
  (drained.map Report.toValue).filter Json.encodable

structure Batch where
  drained : List Report
  outcomes : List (Except Fault Nat)

namespace Batch

variable (batch : Batch)

def payloads : List Value := AgentReporting.payloads batch.drained

def body : String := String.ofList (Json.text (.list batch.payloads))

def deliveries (route : String) : List Delivery :=
  batch.outcomes.map fun outcome => ⟨route, batch.body, outcome⟩

def isLost : Bool := !batch.outcomes.any arrived

def lostLine (attempts : Int) : LogLine :=
  ⟨.error, s!"All {attempts} attempts to send {batch.drained.length} reports have failed", none⟩

end Batch

def givesUp (line : LogLine) : Bool :=
  line.level == .error && "All ".toList.isPrefixOf line.text.toList

theorem givesUp_lostLine (batch : Batch) (attempts : Int) :
    givesUp (batch.lostLine attempts) = true := by
  simp only [givesUp, Batch.lostLine, String.toList_append, List.append_assoc]
  exact List.isPrefixOf_iff_prefix.mpr (List.prefix_append _ _)

/-! ## One batch -/

/-- Between two trails these deliveries were made, and these lines written about lost batches. -/
structure Sends (before : Trail (Noted τ)) (deliveries : List Delivery) (lines : List LogLine)
    (after : Trail (Noted τ)) : Prop where
  posts : after.outside.posts = before.outside.posts ++ deliveries
  lines : after.log.filter givesUp = before.log.filter givesUp ++ lines

namespace Sends

variable {first second third : Trail (Noted τ)} {xs ys : List Delivery} {ls ms : List LogLine}

theorem none (trail : Trail (Noted τ)) : Sends trail [] [] trail :=
  ⟨(List.append_nil _).symm, (List.append_nil _).symm⟩

theorem append (h : Sends first xs ls second) (h' : Sends second ys ms third) :
    Sends first (xs ++ ys) (ls ++ ms) third := by
  constructor
  · rw [h'.posts, h.posts, List.append_assoc]
  · rw [h'.lines, h.lines, List.append_assoc]

theorem line (h : Sends first xs ls second) (line : LogLine) :
    Sends first xs (ls ++ [line].filter givesUp)
      { second with log := second.log ++ [line] } := by
  refine ⟨h.posts, ?_⟩
  rw [List.filter_append, h.lines, List.append_assoc]

theorem otherLine (h : Sends first xs ls second) {line : LogLine} (hl : givesUp line = false) :
    Sends first xs ls { second with log := second.log ++ [line] } := by
  have h' := h.line line
  rwa [List.filter_cons_of_neg (by simp [hl]), List.filter_nil, List.append_nil] at h'

end Sends

theorem run_writable (reports : List Report) (trail : Trail (Noted τ)) :
    ((Outbox.writable reports).run trail).1 = payloads reports ∧
      Sends trail [] [] ((Outbox.writable reports).run trail).2 := by
  induction reports generalizing trail with
  | nil => exact ⟨rfl, .none trail⟩
  | cons report rest ih =>
    rw [Outbox.writable]
    by_cases he : Json.encodable report.toValue
    · obtain ⟨hv, hs⟩ := ih trail
      simp only [he, if_true, Act.run_bind, Act.run_pure, hv]
      refine ⟨?_, hs⟩
      simp [payloads, he]
    · have hn : Sends trail [] [] ((Outbox.noteUnencodable report).run trail).2 := by
        refine (Sends.none trail).otherLine ?_
        simp only [givesUp, String.toList_append, List.append_assoc]
        rfl
      obtain ⟨hv, hs⟩ := ih ((Outbox.noteUnencodable report).run trail).2
      simp only [he, Bool.false_eq_true, if_false, Act.run_bind, hv]
      refine ⟨?_, hn.append hs⟩
      simp [payloads, he]

variable {recipient : Recipient τ}

theorem endured_of_transferOnly (h : Desk.TransferOnly recipient) {delivery : Delivery}
    (ha : recipient.Answers delivery) : endured delivery.outcome = true := by
  cases ho : delivery.outcome with
  | ok status => rfl
  | error fault => exact h delivery fault ha ho

theorem run_attempt (recipient : Recipient τ) (route body : String) (count attempts : Nat)
    (trail : Trail (Noted τ)) :
    ∃ outcome noted, recipient.Answers ⟨route, body, outcome⟩ ∧
      Sends trail [⟨route, body, outcome⟩] [] noted ∧
      (Outbox.postBatch recipient.post route body count (attempts + 1)).run trail =
        if arrived outcome then (.ok true, noted)
        else if endured outcome then
          (Outbox.postBatch recipient.post route body count attempts).run noted
        else (outcome.map fun _ => false, noted) := by
  obtain ⟨outcome, ha, ho, hp, hl⟩ := Desk.run_post recipient trail route body
  have hpost : Sends trail [⟨route, body, outcome⟩] []
      ((recipient.post route body).result.run trail).2 := by
    refine ⟨hp, ?_⟩
    rw [hl, List.append_nil]
  refine ⟨outcome, ?_⟩
  rw [Outbox.postBatch, Act.run_bind, ho]
  generalize ((recipient.post route body).result.run trail).2 = posted at hpost
  cases outcome with
  | error fault =>
    simp only [arrived, endured, Bool.false_eq_true, if_false]
    by_cases ht : fault.isTransfer
    · simp only [ht, if_true]
      refine ⟨_, ha, hpost.otherLine ?_, rfl⟩
      simp only [givesUp, String.toList_append, List.append_assoc]
      rfl
    · simp only [ht, Bool.false_eq_true, if_false]
      exact ⟨_, ha, hpost, rfl⟩
  | ok status =>
    by_cases hs : isSuccessStatus status
    · simp only [hs, if_true, arrived]
      exact ⟨posted, ha, hpost, rfl⟩
    simp only [hs, Bool.false_eq_true, if_false, if_true, arrived, endured, Act.run_bind]
    have hwarning : givesUp ⟨.warning,
        s!"Agent responded with an unexpected status {status} to send {count} reports", none⟩ =
      false := rfl
    have hwarned := hpost.otherLine hwarning
    by_cases hz : attempts = 0
    · simp only [hz, ne_eq, not_true, if_false]
      exact ⟨_, ha, hwarned, rfl⟩
    · simp only [hz, ne_eq, not_false_iff, if_true]
      exact ⟨_, ha, hwarned.otherLine rfl, rfl⟩

def verdict (outcomes : List (Except Fault Nat)) : Option Fault → Except Fault Bool
  | none => .ok (outcomes.any arrived)
  | some fault => .error fault

theorem run_postBatch (recipient : Recipient τ) (route body : String) (count attempts : Nat)
    (trail : Trail (Noted τ)) :
    ∃ outcomes stop, Heard attempts outcomes stop ∧
      (∀ outcome ∈ outcomes, recipient.Answers ⟨route, body, outcome⟩) ∧
      let done := (Outbox.postBatch recipient.post route body count attempts).run trail
      done.1 = verdict outcomes stop ∧
        Sends trail (outcomes.map fun outcome => ⟨route, body, outcome⟩) [] done.2 := by
  induction attempts generalizing trail with
  | zero =>
    refine ⟨[], none, .none_left, ?_, rfl, .none trail⟩
    exact fun _ hm => nomatch hm
  | succ attempts ih =>
    obtain ⟨outcome, noted, ha, hs, hrun⟩ := run_attempt recipient route body count
      attempts trail
    rw [hrun]
    have hsingle : ∀ o ∈ [outcome], recipient.Answers ⟨route, body, o⟩ := by simpa using ha
    by_cases hok : arrived outcome
    · rw [if_pos hok]
      have he : endured outcome = true := by
        cases outcome with
        | ok status => rfl
        | error fault => cases hok
      refine ⟨[outcome], none, .success he hok, hsingle, ?_, hs⟩
      simp [verdict, hok]
    rw [if_neg hok]
    -- a batch that has not arrived is tried again unless a fault breaks off the attempts
    by_cases he : endured outcome
    · rw [if_pos he]
      obtain ⟨outcomes, stop, hh, hall, hv, hrest⟩ := ih noted
      refine ⟨outcome :: outcomes, stop, hh.failure he (Bool.eq_false_iff.mpr hok), ?_, ?_,
        hs.append hrest⟩
      · simpa [ha] using hall
      · cases stop with
        | none => simpa [verdict, hok] using hv
        | some fault => exact hv
    · rw [if_neg he]
      cases outcome with
      | ok status => exact absurd rfl he
      | error fault =>
        refine ⟨[.error fault], some fault, ?_, hsingle, rfl, hs⟩
        refine @Heard.broken _ [] fault (Nat.succ_pos _) ?_ (Bool.eq_false_iff.mpr he)
        exact fun _ hm => nomatch hm

def Batch.ending (batch : Batch) (attempts : Int) : Option Fault → Except Fault Unit
  | none =>
    if batch.isLost then .error (Outbox.batchFailure attempts batch.drained.length) else .ok ()
  | some fault => .error fault

theorem run_deliverBatch (recipient : Recipient τ) (route : String) (attempts : Int)
    (reports : List Report) (trail : Trail (Noted τ)) :
    let done := (Outbox.deliverBatch recipient.post route attempts reports).run trail
    (payloads reports = [] ∧ done.1 = .ok () ∧ Sends trail [] [] done.2) ∨
      payloads reports ≠ [] ∧ ∃ (batch : Batch) (stop : Option Fault), batch.drained = reports ∧
        Heard attempts.toNat batch.outcomes stop ∧
        (∀ delivery ∈ batch.deliveries route, recipient.Answers delivery) ∧
        Sends trail (batch.deliveries route) [] done.2 ∧ done.1 = batch.ending attempts stop := by
  obtain ⟨hv, hs⟩ := run_writable reports trail
  dsimp only
  rw [Outbox.deliverBatch, Act.run_bind, hv]
  generalize ((Outbox.writable reports).run trail).2 = written at hs
  by_cases he : payloads reports = []
  · left
    simp only [he, List.isEmpty_nil, if_true]
    exact ⟨trivial, rfl, hs⟩
  right
  have hne : (payloads reports).isEmpty = false := by simpa using he
  obtain ⟨outcomes, stop, hh, hall, hok, hposts⟩ := run_postBatch recipient route
    (String.ofList (Json.text (.list (payloads reports)))) reports.length attempts.toNat written
  refine ⟨he, ⟨reports, outcomes⟩, stop, rfl, hh, ?_, ?_⟩
  · simpa [Batch.deliveries, Batch.body, Batch.payloads] using hall
  simp only [hne, Bool.false_eq_true, if_false, Act.run_bind, hok]
  cases stop with
  | some fault => exact ⟨hs.append hposts, rfl⟩
  | none =>
    cases hany : outcomes.any arrived with
    | true =>
      refine ⟨?_, ?_⟩
      · simp only [verdict, hany]
        exact hs.append hposts
      · simp only [verdict, Batch.ending, Batch.isLost, hany]
        rfl
    | false =>
      refine ⟨?_, ?_⟩
      · simp only [verdict, hany]
        exact hs.append hposts
      · simp only [verdict, Batch.ending, Batch.isLost, hany]
        rfl

/-! ## Batch after batch -/

/-- Between two trails these batches were delivered, for reports drained in this order. -/
structure Carries (route : String) (size attempts : Int) (drained : List Report)
    (batches : List Batch) (before after : Trail (Noted τ)) : Prop where
  sends : Sends before (batches.flatMap (·.deliveries route))
    ((batches.filter (·.isLost)).map (·.lostLine attempts)) after
  whole : batches.flatMap (·.payloads) = payloads drained
  sized : ∀ batch ∈ batches, 1 ≤ batch.payloads.length ∧ (batch.payloads.length : Int) ≤ size
  tried : ∀ batch ∈ batches, Tried attempts.toNat batch.outcomes

theorem payloads_append (xs ys : List Report) :
    payloads (xs ++ ys) = payloads xs ++ payloads ys := by
  simp [payloads]

theorem length_payloads_le (reports : List Report) :
    (payloads reports).length ≤ reports.length := by
  unfold payloads
  exact Nat.le_trans (List.length_filter_le _ _) (by simp)

variable {route : String} {size attempts : Int}

theorem Carries.single {batch : Batch} {before after : Trail (Noted τ)}
    (hs : 1 ≤ batch.payloads.length ∧ (batch.payloads.length : Int) ≤ size)
    (ht : Tried attempts.toNat batch.outcomes) (h : Sends before (batch.deliveries route)
      (([batch].filter (·.isLost)).map (·.lostLine attempts)) after) :
    Carries route size attempts batch.drained [batch] before after := by
  refine ⟨?_, ?_, ?_, ?_⟩
  · simpa using h
  · simp [Batch.payloads]
  · simpa using hs
  · simpa using ht

theorem Carries.append {xs ys : List Report} {bs cs : List Batch}
    {first second third : Trail (Noted τ)} (h : Carries route size attempts xs bs first second)
    (h' : Carries route size attempts ys cs second third) :
    Carries route size attempts (xs ++ ys) (bs ++ cs) first third := by
  constructor
  · simpa using h.sends.append h'.sends
  · rw [List.flatMap_append, h.whole, h'.whole, payloads_append]
  · intro batch hb
    exact (List.mem_append.mp hb).elim (h.sized batch) (h'.sized batch)
  · intro batch hb
    exact (List.mem_append.mp hb).elim (h.tried batch) (h'.tried batch)

/-- The fault of a batch that is broken off came from the recipient. -/
theorem isValueFault_of_heard (h : Desk.Tolerable recipient) {batch : Batch} {fault : Fault}
    (hheard : Heard attempts.toNat batch.outcomes (some fault))
    (hall : ∀ delivery ∈ batch.deliveries route, recipient.Answers delivery) :
    fault.isValueFault = true := by
  obtain ⟨hf, failed, ho⟩ := hheard.of_some
  have hm : ⟨route, batch.body, .error fault⟩ ∈ batch.deliveries route := by
    simp [Batch.deliveries, ho]
  have ht := h _ (hall _ hm)
  rwa [tolerated, hf, Bool.false_or] at ht

def Batch.notice (batch : Batch) (attempts : Int) : Option Fault → List LogLine
  | none => ([batch].filter (·.isLost)).map (·.lostLine attempts)
  | some _ => []

/-- The next parcels of an outbox that posts in batches: a batch that is lost is logged, and a
fault about a value is not caught. -/
theorem run_handleLogged (h : Desk.Tolerable recipient) (desk : Desk (Noted τ)) {parcel : Parcel}
    {rest : List Parcel} (hm : desk.outbox.mode = .batch route size attempts)
    (hp : desk.outbox.parcels = parcel :: rest) :
    let drained := (parcel :: rest.take (size.toNat - 1)).filterMap (·.report?)
    let done := desk.run (Outbox.handleLogged recipient.post)
    done.2.outbox = { desk.outbox with parcels := rest.drop (size.toNat - 1) } ∧
      ((payloads drained = [] ∧ done.1 = .ok () ∧ Sends desk.trail [] [] done.2.trail) ∨
        payloads drained ≠ [] ∧ ∃ (batch : Batch) (stop : Option Fault), batch.drained = drained ∧
          Heard attempts.toNat batch.outcomes stop ∧
          (∀ delivery ∈ batch.deliveries route, recipient.Answers delivery) ∧
          (∀ fault, stop = some fault → fault.isValueFault = true) ∧
          Sends desk.trail (batch.deliveries route) (batch.notice attempts stop) done.2.trail ∧
          done.1 = halted stop) := by
  have hh := Desk.run_handle_batch recipient.post desk hm hp
  generalize (parcel :: rest.take (size.toNat - 1)).filterMap (·.report?) = drained at hh ⊢
  dsimp only
  rw [Outbox.handleLogged, Desk.run_bind, hh, Desk.run_liftM]
  have hd := run_deliverBatch recipient route attempts drained desk.trail
  generalize (Outbox.deliverBatch recipient.post route attempts drained).run desk.trail = done at hd
  obtain ⟨answer, after⟩ := done
  rcases hd with ⟨he, rfl, hsends⟩ | ⟨hne, batch, stop, rfl, hheard, hall, hsends, rfl⟩
  · exact ⟨rfl, .inl ⟨he, rfl, hsends⟩⟩
  cases stop with
  | none =>
    have hvalue : ∀ fault : Fault, none = some fault → fault.isValueFault = true := by
      rintro fault ⟨⟩
    cases hl : batch.isLost with
    | true =>
      have hline := hsends.line (batch.lostLine attempts)
      rw [List.filter_cons_of_pos (givesUp_lostLine batch attempts)] at hline
      simp only [Batch.ending, hl, if_true]
      refine ⟨rfl, .inr ⟨hne, batch, none, rfl, hheard, hall, hvalue, ?_, rfl⟩⟩
      rw [Batch.notice, List.filter_cons_of_pos hl]
      exact hline
    | false =>
      simp only [Batch.ending, hl, Bool.false_eq_true, if_false]
      refine ⟨rfl, .inr ⟨hne, batch, none, rfl, hheard, hall, hvalue, ?_, rfl⟩⟩
      rw [Batch.notice, List.filter_cons_of_neg (by simp [hl])]
      exact hsends
  | some fault =>
    have hf := isValueFault_of_heard h hheard hall
    have hvalue : ∀ other, some fault = some other → other.isValueFault = true := by
      rintro other ⟨⟩
      exact hf
    simp only [Batch.ending]
    -- the only fault that the consumer catches is the one about lost batches
    split
    · contradiction
    · rename_i hk
      cases hk
      cases hf
    · rename_i hk
      cases hk
      exact ⟨rfl, .inr ⟨hne, batch, some _, rfl, hheard, hall, hvalue, hsends, rfl⟩⟩

theorem turn_carries (h : Desk.TransferOnly recipient) (hs : 1 ≤ size) (desk : Desk (Noted τ))
    {parcel : Parcel} {rest : List Parcel} (hm : desk.outbox.mode = .batch route size attempts)
    (hp : desk.outbox.parcels = parcel :: rest) :
    let done := desk.run (Outbox.handleLogged recipient.post)
    done.1 = .ok () ∧ ∃ batches, Carries route size attempts
      ((parcel :: rest.take (size.toNat - 1)).filterMap (·.report?)) batches
      desk.trail done.2.trail := by
  have hsize : ((parcel :: rest.take (size.toNat - 1)).filterMap (·.report?)).length ≤
      size.toNat := by
    refine Nat.le_trans (List.length_filterMap_le _ _) ?_
    simp only [List.length_cons, List.length_take]
    omega
  obtain ⟨-, hd⟩ := run_handleLogged h.tolerable desk hm hp
  rcases hd with ⟨he, hok, hsends⟩ | ⟨hne, batch, stop, hdrained, hheard, hall, -, hsends, hok⟩
  · refine ⟨hok, [], hsends, he.symm, ?_, ?_⟩
    · exact fun _ hb => nomatch hb
    · exact fun _ hb => nomatch hb
  obtain ⟨rfl, htried⟩ := hheard.of_endured fun outcome ho =>
    endured_of_transferOnly h (hall _ (List.mem_map_of_mem ho))
  have hsized : 1 ≤ batch.payloads.length ∧ (batch.payloads.length : Int) ≤ size := by
    rw [← hdrained] at hne hsize
    have hle := length_payloads_le batch.drained
    have hpos := List.length_pos_iff.mpr hne
    unfold Batch.payloads
    omega
  exact ⟨hok, [batch], hdrained ▸ .single hsized htried hsends⟩

theorem handles_batch (h : Desk.TransferOnly recipient) (hs : 1 ≤ size) :
    Desk.Handles recipient.post (.batch route size attempts) fun parcels stop before after =>
      stop = none ∧ ∃ batches,
        Carries route size attempts (parcels.filterMap (·.report?)) batches before after
    where
  nothing trail := by
    refine ⟨rfl, [], .none trail, rfl, ?_, ?_⟩
    · exact fun _ hb => nomatch hb
    · exact fun _ hb => nomatch hb
  append := by
    rintro xs ys stop first second third ⟨-, bs, hb⟩ ⟨hstop, cs, hc⟩
    rw [List.filterMap_append]
    exact ⟨hstop, bs ++ cs, hb.append hc⟩
  turn desk hu hp := by
    obtain ⟨parcel, rest, hp⟩ := List.exists_cons_of_ne_nil hp
    obtain ⟨ho, -⟩ := run_handleLogged h.tolerable desk hu.mode hp
    obtain ⟨hok, hc⟩ := turn_carries h hs desk hu.mode hp
    dsimp only
    rw [ho]
    refine ⟨⟨hu.mode, hu.running, hu.cancelled⟩, _, none, hok, List.cons_ne_nil _ _, ?_, rfl, hc⟩
    rw [hp, List.cons_append, List.take_append_drop]

/-! ## Against delivery one by one -/

/-- What is posted one by one is what is gathered in batches. -/
theorem written_parcels (parcels : List Parcel) :
    ((parcels.filterMap (·.item?)).filterMap written?).map Prod.snd =
      (payloads (parcels.filterMap (·.report?))).map fun payload =>
        String.ofList (Json.text payload) := by
  induction parcels with
  | nil => rfl
  | cons parcel rest ih =>
    cases parcel with
    | wake => exact ih
    | report route report =>
      simp only [List.filterMap_cons, Parcel.item?, Parcel.report?, written?, Report.encode?,
        Json.encode?, payloads, List.map_cons, List.filter_cons] at ih ⊢
      by_cases he : Json.encodable report.toValue
      · simp [he, ih]
      · simp [he, ih]

/-- How a run in batches agrees with a run one by one. -/
structure Agrees (route : String) (size attempts : Int) (batches : List Batch)
    (single : Desk (Noted τ)) (batched : Desk (Noted ρ)) : Prop where
  drained : single.outbox.parcels = [] ∧ batched.outbox.parcels = []
  /-- Only the batches are posted, each as often as it was tried, with the same body. -/
  posts : batched.posts = batches.flatMap (·.deliveries route)
  /-- Their payloads are what is posted one by one. -/
  payloads : single.posts.map (·.body) =
    (batches.flatMap (·.payloads)).map fun payload => String.ofList (Json.text payload)
  sized : ∀ batch ∈ batches, 1 ≤ batch.payloads.length ∧ (batch.payloads.length : Int) ≤ size
  tried : ∀ batch ∈ batches, Tried attempts.toNat batch.outcomes
  /-- Each batch that never arrived is given up once, with its line in the log. -/
  lost : batched.trail.log.filter givesUp =
    (batches.filter (·.isLost)).map (·.lostLine attempts)

theorem batchOf_eq (hs : 1 ≤ size) (ha : 1 ≤ attempts) :
    Mode.batchOf route size attempts = .batch route size attempts := by
  unfold Mode.batchOf
  have hmax : max 1 size = size := by omega
  rw [if_neg (by omega), hmax]

/-- Batches carry what is posted one by one, whatever the Agent answers. -/
theorem batches_agree {recipient : Recipient τ} {other : Recipient ρ}
    (h : Desk.TransferOnly recipient) (h' : Desk.TransferOnly other) (route : String)
    {size attempts : Int} (hs : 1 ≤ size) (ha : 1 ≤ attempts) (capacity : Int)
    (parcels : List Parcel) (world : τ) (otherWorld : ρ) :
    let single := Desk.run
      ⟨Outbox.load parcels (.fresh .single capacity), { outside := { world } }⟩
      (Outbox.run recipient.post)
    let batched := Desk.run
      ⟨Outbox.load parcels (.fresh (.batchOf route size attempts) capacity),
        { outside := { world := otherWorld } }⟩
      (Outbox.run other.post)
    single.1 = .ok () ∧ batched.1 = .ok () ∧
      ∃ batches, Agrees route size attempts batches single.2 batched.2 := by
  dsimp only
  rw [batchOf_eq hs ha]
  obtain ⟨hok, hnil, -, hposts⟩ :=
    (Desk.handles_single h.tolerable).run_whole And.left capacity parcels { outside := { world } }
  obtain ⟨hok', hnil', -, batches, hc⟩ := (handles_batch h' hs).run_whole And.left capacity parcels
    { outside := { world := otherWorld } }
  refine ⟨hok, hok', batches, ⟨hnil, hnil'⟩, hc.sends.posts, ?_, hc.sized, hc.tried, hc.sends.lines⟩
  have hbodies := congrArg (List.map Prod.snd) hposts
  rw [List.map_map, List.map_append, written_parcels] at hbodies
  rw [hc.whole]
  exact hbodies

/-- An Agent that answers with these statuses, is out of reach where there is none, and takes
everything afterwards. -/
def unsteady : Recipient (List (Option Nat)) := fun _ _ world =>
  match world with
  | [] => (.ok 200, [])
  | some status :: rest => (.ok status, rest)
  | none :: rest => (.error (.transfer .read "reset"), rest)

theorem unsteady_transferOnly : Desk.TransferOnly unsteady := by
  rintro delivery fault ⟨world, hw⟩ hf
  rw [hf] at hw
  match world, hw with
  | none :: rest, hw =>
    cases hw
    rfl

/-- The first batch, of which one report can be written, is lost; the second arrives. -/
theorem lost_batch_agrees :
    let test (name : String) (message : Value) := Parcel.report "/tests" (.test { name, message })
    let parcels := [test "a" .null, test "b" (.paired .null []), .wake, test "c" .null]
    let single := Desk.run
      ⟨Outbox.load parcels (.fresh .single 8), { outside := { world := [] } }⟩
      (Outbox.run unsteady.post)
    let batched := Desk.run
      ⟨Outbox.load parcels (.fresh (.batchOf "/batches" 2 2) 8),
        { outside := { world := [none, some 500] } }⟩
      (Outbox.run unsteady.post)
    batched.2.posts.map (arrived ·.outcome) = [false, false, true] ∧
      single.1 = .ok () ∧ batched.1 = .ok () ∧
        ∃ batches, Agrees "/batches" 2 2 batches single.2 batched.2 := by
  intro test parcels single batched
  refine ⟨rfl, ?_⟩
  exact batches_agree unsteady_transferOnly unsteady_transferOnly "/batches" (by decide)
    (by decide) 8 parcels [] [none, some 500]

end AgentReporting
