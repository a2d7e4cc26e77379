import AgentReporting.Outbox.Consumer
import AgentReporting.Proofs.Running

/-! # Posting one parcel

Operations on an outbox are run at a desk, where the outbox lies beside what they leave
behind. A recipient answers what is posted, and each post is noted with its outcome: one
parcel is posted once on its own route, or not at all if it cannot be written.
-/

namespace AgentReporting

variable {σ τ α β : Type}

/-- Who answers what is posted; `τ` is their state. -/
abbrev Recipient (τ : Type) := (route body : String) → StateM τ (Except Fault Nat)

structure Delivery where
  route : String
  body : String
  outcome : Except Fault Nat

def Delivery.sent (delivery : Delivery) : String × String := (delivery.route, delivery.body)

structure Noted (τ : Type) where
  world : τ
  posts : List Delivery := []

def Recipient.post (recipient : Recipient τ) : Post (Noted τ) := fun route body =>
  Attempt.ofResult (Act.outside fun noted =>
    let (outcome, world) := (recipient route body).run noted.world
    (outcome, { world, posts := noted.posts ++ [⟨route, body, outcome⟩] }))

def Recipient.Answers (recipient : Recipient τ) (delivery : Delivery) : Prop :=
  ∃ world, ((recipient delivery.route delivery.body).run world).1 = delivery.outcome

/-- An outbox, and what has been left behind so far. -/
structure Desk (σ : Type) where
  outbox : Outbox
  trail : Trail σ

namespace Desk

variable (desk : Desk σ)

def run (op : Posting σ α) : α × Desk σ :=
  let ((a, outbox), trail) := (op.run desk.outbox).run desk.trail
  (a, ⟨outbox, trail⟩)

@[simp] theorem run_pure (a : α) : desk.run (pure a) = (a, desk) := rfl

@[simp] theorem run_bind (op : Posting σ α) (f : α → Posting σ β) :
    desk.run (op >>= f) = (desk.run op).2.run (f (desk.run op).1) := rfl

@[simp] theorem run_get : desk.run get = (desk.outbox, desk) := rfl

@[simp] theorem run_set (outbox : Outbox) :
    desk.run (set outbox) = ((), { desk with outbox }) := rfl

@[simp] theorem run_modify (f : Outbox → Outbox) :
    desk.run (modify f) = ((), { desk with outbox := f desk.outbox }) := rfl

@[simp] theorem run_liftM (act : Act σ α) :
    desk.run (liftM act) =
      ((act.run desk.trail).1, { desk with trail := (act.run desk.trail).2 }) := rfl

def posts (desk : Desk (Noted τ)) : List Delivery := desk.trail.outside.posts

end Desk

def tolerated : Except Fault Nat → Bool
  | .ok _ => true
  | .error fault => fault.isTransfer || fault.isValueFault

def Outbox.count (outbox : Outbox) : Except Fault Nat → Outbox
  | .ok status => if isSuccessStatus status then outbox.recordSuccess else outbox.recordFailure
  | .error fault => if tolerated (.error fault) then outbox.recordFailure else outbox

theorem Outbox.count_same (outbox : Outbox) (outcome : Except Fault Nat) :
    ∃ failures disabled, outbox.count outcome = { outbox with failures, disabled } := by
  unfold count
  split
  · split
    · exact ⟨_, _, rfl⟩
    · exact ⟨_, _, rfl⟩
  · split
    · exact ⟨_, _, rfl⟩
    · exact ⟨_, _, rfl⟩

/-! ## What is posted for a report -/

namespace Parcel

def item? : Parcel → Option (String × Report)
  | wake => none
  | report route r => some (route, r)

end Parcel

def written? (item : String × Report) : Option (String × String) :=
  item.2.encode?.map fun body => (item.1, body)

/-! ## One operation after another -/

namespace Desk

variable (post : Post σ) (desk : Desk σ)

theorem run_fail : (desk.run Outbox.fail).2.outbox = desk.outbox.recordFailure ∧
    (desk.run Outbox.fail).2.trail.outside = desk.trail.outside := by
  unfold Outbox.fail
  rw [run_bind, run_get, run_bind, run_set]
  split
  · exact ⟨rfl, rfl⟩
  · exact ⟨rfl, rfl⟩

theorem run_postReport_eq (route : String) (report : Report) (body : String) :
    let posted := (post route body).result.run desk.trail
    let done := desk.run (Outbox.postReport post route report body)
    done.1 = (if tolerated posted.1 then .ok () else posted.1.map fun _ => ()) ∧
      done.2.outbox = desk.outbox.count posted.1 ∧
      done.2.trail.outside = posted.2.outside := by
  unfold Outbox.postReport Outbox.count
  rw [run_bind, run_liftM]
  generalize (post route body).result.run desk.trail = posted
  obtain ⟨outcome, trail⟩ := posted
  cases outcome with
  | error fault =>
    cases ht : fault.isTransfer || fault.isValueFault with
    | false =>
      simp only [ht, tolerated, Bool.false_eq_true, if_false]
      exact ⟨rfl, rfl, rfl⟩
    | true =>
      simp only [ht, tolerated, if_true, run_bind, run_liftM]
      exact ⟨rfl, run_fail _⟩
  | ok status =>
    cases hs : isSuccessStatus status with
    | true =>
      simp only [hs, tolerated, if_true]
      exact ⟨rfl, rfl, rfl⟩
    | false =>
      simp only [hs, tolerated, Bool.false_eq_true, if_false, if_true, run_bind, run_liftM]
      exact ⟨rfl, run_fail _⟩

/-- A parcel without a report that can be written is dropped; for any other there is one post. -/
theorem run_deliver_eq (parcel : Parcel) :
    let done := desk.run (Outbox.deliver post parcel)
    (parcel.item?.bind written? = none ∧ done.1 = .ok () ∧ done.2.outbox = desk.outbox ∧
        done.2.trail.outside = desk.trail.outside) ∨
      ∃ route body, parcel.item?.bind written? = some (route, body) ∧
        let posted := (post route body).result.run desk.trail
        done.1 = (if tolerated posted.1 then .ok () else posted.1.map fun _ => ()) ∧
          done.2.outbox = desk.outbox.count posted.1 ∧
          done.2.trail.outside = posted.2.outside := by
  cases parcel with
  | wake =>
    left
    unfold Outbox.deliver
    rw [run_bind, run_get]
    cases desk.outbox.running with
    | false => exact ⟨rfl, rfl, rfl, rfl⟩
    | true => exact ⟨rfl, rfl, rfl, rfl⟩
  | report route report =>
    unfold Outbox.deliver
    simp only [Parcel.item?, Option.bind_some, written?]
    cases report.encode? with
    | none => exact .inl ⟨rfl, rfl, rfl, rfl⟩
    | some body => exact .inr ⟨route, body, rfl, run_postReport_eq post desk route report body⟩

theorem run_handle_single {parcel : Parcel} {rest : List Parcel}
    (hm : desk.outbox.mode = .single) (hp : desk.outbox.parcels = parcel :: rest) :
    desk.run (Outbox.handle post) =
      Desk.run { desk with outbox := { desk.outbox with parcels := rest } }
        (Outbox.deliver post parcel) := by
  rw [Outbox.handle, run_bind, run_get]
  simp only [hm, hp, run_bind, run_set]

theorem run_handleLogged_single {parcel : Parcel} {rest : List Parcel}
    (hm : desk.outbox.mode = .single) (hp : desk.outbox.parcels = parcel :: rest) :
    let delivered := Desk.run { desk with outbox := { desk.outbox with parcels := rest } }
      (Outbox.deliver post parcel)
    let done := desk.run (Outbox.handleLogged post)
    (done.1 = delivered.1 ∨ done.1 = .ok ()) ∧ done.2.outbox = delivered.2.outbox ∧
      done.2.trail.outside = delivered.2.trail.outside := by
  dsimp only
  rw [Outbox.handleLogged, run_bind, run_handle_single post desk hm hp]
  generalize Desk.run _ (Outbox.deliver post parcel) = delivered
  obtain ⟨answer, after⟩ := delivered
  cases answer with
  | ok => exact ⟨.inl rfl, rfl, rfl⟩
  | error fault =>
    dsimp only
    split
    · exact ⟨.inr rfl, rfl, rfl⟩
    · exact ⟨.inr rfl, rfl, rfl⟩
    · rename_i hc
      cases hc
      exact ⟨.inl rfl, rfl, rfl⟩

/-- An outbox that posts in batches takes up to `size` parcels and delivers their reports. -/
theorem run_handle_batch {route : String} {size attempts : Int} {parcel : Parcel}
    {rest : List Parcel} (hm : desk.outbox.mode = .batch route size attempts)
    (hp : desk.outbox.parcels = parcel :: rest) :
    desk.run (Outbox.handle post) =
      Desk.run { desk with outbox := { desk.outbox with parcels := rest.drop (size.toNat - 1) } }
        (liftM (Outbox.deliverBatch post route attempts
          ((parcel :: rest.take (size.toNat - 1)).filterMap (·.report?)))) := by
  rw [Outbox.handle, run_bind, run_get]
  simp only [hm, hp, run_bind, run_set]

end Desk

/-! ## What is posted to a recipient -/

namespace Desk

variable (recipient : Recipient τ) (desk : Desk (Noted τ))

theorem run_post (trail : Trail (Noted τ)) (route body : String) : ∃ outcome,
    recipient.Answers ⟨route, body, outcome⟩ ∧
      ((recipient.post route body).result.run trail).1 = outcome ∧
      ((recipient.post route body).result.run trail).2.outside.posts =
        trail.outside.posts ++ [⟨route, body, outcome⟩] ∧
      ((recipient.post route body).result.run trail).2.log = trail.log :=
  ⟨_, ⟨_, rfl⟩, rfl, rfl, rfl⟩

/-- Between two desks the deliveries were made, and only the count of failures may differ. -/
structure Delivers (before : Desk (Noted τ)) (deliveries : List Delivery)
    (after : Desk (Noted τ)) : Prop where
  posts : after.posts = before.posts ++ deliveries
  outbox : ∃ failures disabled, after.outbox = { before.outbox with failures, disabled }

theorem Delivers.none {before after : Desk (Noted τ)} (ho : after.outbox = before.outbox)
    (hp : after.posts = before.posts) : before.Delivers [] after :=
  ⟨hp.trans (List.append_nil _).symm, _, _, ho⟩

/-- A post ended with a fault that the consumer does not put up with. -/
def Breaks (deliveries : List Delivery) (fault : Fault) : Prop :=
  ∃ delivery ∈ deliveries, recipient.Answers delivery ∧ delivery.outcome = .error fault ∧
    tolerated delivery.outcome = false

theorem run_deliver (parcel : Parcel) : ∃ deliveries,
    let done := desk.run (Outbox.deliver recipient.post parcel)
    desk.Delivers deliveries done.2 ∧
      deliveries.map Delivery.sent = (parcel.item?.bind written?).toList ∧
      ∀ fault, done.1 = .error fault → Breaks recipient deliveries fault := by
  rcases run_deliver_eq recipient.post desk parcel with
    ⟨hn, hok, ho, hs⟩ | ⟨route, body, hw, hr, ho, hs⟩
  · refine ⟨[], .none ho (congrArg Noted.posts hs), by rw [hn]; rfl, ?_⟩
    intro fault hf
    rw [hok] at hf
    cases hf
  · obtain ⟨outcome, ha, houtcome, hp, -⟩ := run_post recipient desk.trail route body
    rw [houtcome] at hr ho
    refine ⟨[⟨route, body, outcome⟩], ⟨(congrArg Noted.posts hs).trans hp, ?_⟩,
      by rw [hw]; rfl, ?_⟩
    · rw [ho]
      exact desk.outbox.count_same outcome
    · intro fault hf
      refine ⟨_, List.mem_singleton_self _, ha, ?_⟩
      rw [hr] at hf
      by_cases ht : tolerated outcome
      · simp [ht] at hf
      rw [if_neg ht] at hf
      cases outcome with
      | ok status => cases hf
      | error cause =>
        cases hf
        exact ⟨rfl, Bool.eq_false_iff.mpr ht⟩

theorem run_take {parcel : Parcel} {rest : List Parcel} (hm : desk.outbox.mode = .single)
    (hp : desk.outbox.parcels = parcel :: rest) : ∃ deliveries,
    let done := desk.run (Outbox.handleLogged recipient.post)
    Delivers { desk with outbox := { desk.outbox with parcels := rest } } deliveries done.2 ∧
      deliveries.map Delivery.sent = (parcel.item?.bind written?).toList ∧
      ∀ fault, done.1 = .error fault → Breaks recipient deliveries fault := by
  obtain ⟨deliveries, hd, hs, hb⟩ := run_deliver recipient
    { desk with outbox := { desk.outbox with parcels := rest } } parcel
  obtain ⟨hanswer, houtbox, houtside⟩ := run_handleLogged_single recipient.post desk hm hp
  refine ⟨deliveries, ⟨(congrArg Noted.posts houtside).trans hd.posts, ?_⟩, hs, ?_⟩
  · rw [houtbox]
    exact hd.outbox
  · intro fault hf
    rcases hanswer with heq | hok
    · exact hb fault (heq.symm.trans hf)
    · cases hok.symm.trans hf

end Desk

end AgentReporting
