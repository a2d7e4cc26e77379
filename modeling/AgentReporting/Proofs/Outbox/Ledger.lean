import AgentReporting.Client.Reporting
import AgentReporting.Proofs.Outbox.Posting
import Mathlib.Data.List.Infix

/-! # The ledger of an outbox

A network notes each exchange, and the outbox counts the exchanges that failed. What has
been posted and what still waits make up what is due, whatever the consumer has done so
far; the mark that disables the outbox tells that too many exchanges in a row have failed.
-/

namespace AgentReporting

variable {σ τ α : Type}

/-! ## Exchanges -/

structure Exchange where
  request : HttpRequest
  answer : Except Fault HttpAnswer

namespace Exchange

def failed (exchange : Exchange) : Bool :=
  match exchange.answer.map (·.status) with
  | .ok status => !isSuccessStatus status
  | .error _ => true

def streak (past : List Exchange) : Nat := (past.reverse.takeWhile (·.failed)).length

/-- Whether too many exchanges in a row have ever failed. -/
def givenUp (past : List Exchange) : Bool :=
  past.inits.any fun early => Outbox.maxFailures ≤ streak early

theorem streak_append (past : List Exchange) (exchange : Exchange) :
    streak (past ++ [exchange]) = if exchange.failed then streak past + 1 else 0 := by
  rw [streak, List.reverse_append, List.reverse_singleton, List.singleton_append,
    List.takeWhile_cons]
  split
  · rfl
  · rfl

theorem givenUp_append (past : List Exchange) (exchange : Exchange) :
    givenUp (past ++ [exchange]) =
      (givenUp past || decide (Outbox.maxFailures ≤ streak (past ++ [exchange]))) := by
  simp [givenUp, List.inits_append]

end Exchange

structure Traced (τ : Type) where
  world : τ
  exchanges : List Exchange := []

namespace Traced

def onWorld (act : StateM τ α) : StateM (Traced τ) α := fun traced =>
  let (a, world) := act.run traced.world
  (a, { traced with world })

def within (act : Act τ α) : Act (Traced τ) α :=
  Act.within Traced.world (fun world traced => { traced with world }) act

def send (net : Network τ) (request : HttpRequest) (traced : Traced τ) : Traced τ :=
  let (answer, world) := (net.http request).run traced.world
  { world, exchanges := traced.exchanges ++ [⟨request, answer⟩] }

end Traced

def Network.traced (net : Network τ) : Network (Traced τ) where
  http request traced := (((net.http request).run traced.world).1, traced.send net request)
  automate command := Traced.onWorld (net.automate command)
  openSocket host port := Attempt.ofResult (Traced.within (net.openSocket host port).result)
  closeSocket := Traced.within net.closeSocket

/-! ## One parcel -/

def Channel.posting? (channel : Channel) (parcel : Parcel) : Option HttpRequest :=
  parcel.item?.bind fun item => item.2.encode?.map fun body =>
    channel.request "POST" item.1 Timeout.connection (some body)

theorem Channel.posting?_eq (channel : Channel) (parcel : Parcel) :
    channel.posting? parcel = (parcel.item?.bind written?).map fun (route, body) =>
      channel.request "POST" route Timeout.connection (some body) := by
  unfold posting?
  cases parcel.item? with
  | none => rfl
  | some item =>
    simp only [Option.bind_some, written?, Option.map_map]
    rfl

def Outbox.record (outbox : Outbox) (exchange : Exchange) : Outbox :=
  if exchange.failed then outbox.recordFailure else outbox.recordSuccess

theorem Outbox.count_eq_record (outbox : Outbox) (exchange : Exchange)
    (h : tolerated (exchange.answer.map (·.status)) = true) :
    outbox.count (exchange.answer.map (·.status)) = outbox.record exchange := by
  unfold count record Exchange.failed
  generalize exchange.answer.map (·.status) = outcome at h
  cases outcome with
  | error fault => exact if_pos h
  | ok status => cases hs : isSuccessStatus status <;> simp [hs]

/-- Every post through a channel comes to an end that the consumer of an outbox puts up with. -/
def Network.Tolerates (net : Network τ) (channel : Channel) : Prop :=
  ∀ route body world,
    let request := channel.request "POST" route Timeout.connection (some body)
    tolerated (((net.http request).run world).1.map (·.status)) = true

namespace Desk

variable {net : Network τ} {channel : Channel} (ho : channel.isOpen = true)

include ho

theorem run_post_traced (route body : String) (trail : Trail (Traced τ)) :
    let request := channel.request "POST" route Timeout.connection (some body)
    (Client.post net.traced channel route body).result.run trail =
      (((net.http request).run trail.outside.world).1.map (·.status),
        { trail with outside := trail.outside.send net request }) := by
  intro request
  have hsent : (channel.send net.traced "POST" route Timeout.connection (some body)).result.run
      trail = (((net.http request).run trail.outside.world).1,
        { trail with outside := trail.outside.send net request }) := by
    rw [Channel.send, if_pos ho]
    rfl
  rw [Client.post, Attempt.run_bind, hsent]
  cases ((net.http request).run trail.outside.world).1 with
  | error fault => rfl
  | ok answer => rfl

end Desk

/-- What comes of a parcel that is taken from an outbox: the outbox and the world after it. -/
inductive Outbox.Takes (net : Network τ) (channel : Channel) (parcel : Parcel) (outbox : Outbox)
    (traced : Traced τ) : Outbox → Traced τ → Prop where
  | nothing (h : channel.posting? parcel = none) :
      Takes net channel parcel outbox traced outbox traced
  | posts {request : HttpRequest} (h : channel.posting? parcel = some request) :
      Takes net channel parcel outbox traced
        (outbox.record ⟨request, ((net.http request).run traced.world).1⟩) (traced.send net request)

namespace Desk

variable {net : Network τ} {channel : Channel} (ho : channel.isOpen = true)
  (hnet : net.Tolerates channel)

include ho hnet

theorem run_deliver_takes (desk : Desk (Traced τ)) (parcel : Parcel) :
    let done := desk.run (Outbox.deliver (Client.post net.traced channel) parcel)
    done.1 = .ok () ∧
      Outbox.Takes net channel parcel desk.outbox desk.trail.outside done.2.outbox
        done.2.trail.outside := by
  rcases run_deliver_eq (Client.post net.traced channel) desk parcel with
    ⟨hn, hok, houtbox, houtside⟩ | ⟨route, body, hw, hok, houtbox, houtside⟩
  · refine ⟨hok, ?_⟩
    rw [houtbox, houtside]
    exact .nothing (by rw [Channel.posting?_eq, hn]; rfl)
  · let request := channel.request "POST" route Timeout.connection (some body)
    let exchange : Exchange := ⟨request, ((net.http request).run desk.trail.outside.world).1⟩
    have ht : tolerated (exchange.answer.map (·.status)) = true := hnet route body _
    rw [run_post_traced ho route body desk.trail] at hok houtbox houtside
    refine ⟨hok.trans (if_pos ht), ?_⟩
    rw [houtbox, houtside, desk.outbox.count_eq_record exchange ht]
    exact .posts (by rw [Channel.posting?_eq, hw]; rfl)

theorem run_handle_takes (desk : Desk (Traced τ)) {parcel : Parcel} {rest : List Parcel}
    (hm : desk.outbox.mode = .single) (hp : desk.outbox.parcels = parcel :: rest) :
    let done := desk.run (Outbox.handleLogged (Client.post net.traced channel))
    done.1 = .ok () ∧
      Outbox.Takes net channel parcel { desk.outbox with parcels := rest } desk.trail.outside
        done.2.outbox done.2.trail.outside := by
  obtain ⟨hok, htakes⟩ := run_deliver_takes ho hnet
    { desk with outbox := { desk.outbox with parcels := rest } } parcel
  obtain ⟨hanswer, houtbox, houtside⟩ :=
    run_handleLogged_single (Client.post net.traced channel) desk hm hp
  refine ⟨hanswer.elim (·.trans hok) id, ?_⟩
  rw [houtbox, houtside]
  exact htakes

end Desk

/-! ## What is due -/

/-- What was posted and what still waits is what is due, and failures are counted as they were. -/
structure Ledger (channel : Channel) (due : List HttpRequest) (outbox : Outbox)
    (past : List Exchange) : Prop where
  settled : past.map (·.request) ++ outbox.parcels.filterMap channel.posting? = due
  failures : outbox.failures = Exchange.streak past
  disabled : outbox.disabled = Exchange.givenUp past

theorem Outbox.submit_same (outbox : Outbox) (route : String) (report : Report) :
    ∃ parcels, outbox.submit route report = { outbox with parcels } := by
  unfold submit
  split
  · exact ⟨_, rfl⟩
  · exact ⟨_, rfl⟩

namespace Ledger

variable {net : Network τ} {channel : Channel} {due : List HttpRequest} {outbox after : Outbox}
  {past : List Exchange} {traced later : Traced τ}

theorem takes {parcel : Parcel} {rest : List Parcel}
    (h : Ledger channel due outbox traced.exchanges) (hp : outbox.parcels = parcel :: rest)
    (ht : Outbox.Takes net channel parcel { outbox with parcels := rest } traced after later) :
    Ledger channel due after later.exchanges := by
  have hsettled := h.settled
  rw [hp, List.filterMap_cons] at hsettled
  cases ht with
  | nothing hn =>
    rw [hn] at hsettled
    exact ⟨hsettled, h.failures, h.disabled⟩
  | @posts request hr =>
    rw [hr] at hsettled
    have hexchanges : (traced.send net request).exchanges =
        traced.exchanges ++ [⟨request, ((net.http request).run traced.world).1⟩] := rfl
    unfold Outbox.record
    refine ⟨?_, ?_, ?_⟩
    · rw [hexchanges, List.map_append, ← hsettled, List.append_assoc]
      split <;> rfl
    · rw [hexchanges, Exchange.streak_append, ← h.failures]
      split <;> rfl
    · rw [hexchanges, Exchange.givenUp_append, Exchange.streak_append, ← h.disabled, ← h.failures]
      split
      · rfl
      · simp [Outbox.recordSuccess, Outbox.maxFailures]

theorem submit (h : Ledger channel due outbox past) (route : String) (report : Report) :
    Ledger channel
      (due ++ if Exchange.givenUp past then [] else
        (channel.posting? (.report route report)).toList)
      (outbox.submit route report) past := by
  unfold Outbox.submit
  rw [← h.disabled]
  split
  · rw [List.append_nil]
    exact h
  · refine ⟨?_, h.failures, h.disabled⟩
    rw [Outbox.push, List.filterMap_append, ← List.append_assoc, h.settled]
    cases hr : channel.posting? (.report route report) <;> simp [hr]

theorem wake (h : Ledger channel due outbox past) :
    Ledger channel due (outbox.push .wake) past := by
  refine ⟨?_, h.failures, h.disabled⟩
  rw [Outbox.push, List.filterMap_append, ← List.append_assoc, h.settled]
  exact List.append_nil due

theorem stop (h : Ledger channel due outbox past) : Ledger channel due outbox.stop past := by
  have hstopped : Ledger channel due { outbox with running := false } past :=
    ⟨h.settled, h.failures, h.disabled⟩
  exact hstopped.wake

theorem cancel (h : Ledger channel due outbox past) : Ledger channel due outbox.cancel past := by
  have hstopped : Ledger channel due { outbox with cancelled := true, running := false } past :=
    ⟨h.settled, h.failures, h.disabled⟩
  unfold Outbox.cancel
  dsimp only
  split
  · exact hstopped
  · exact hstopped.wake

end Ledger

/-! ## The consumer -/

/-- A consumer that waits for the parcels of an outbox that posts one by one. -/
structure Worker.Awaits (worker : Worker) : Prop where
  single : worker.outbox.mode = .single
  waiting : worker.phase = .waiting
  uncancelled : worker.outbox.cancelled = false

theorem Outbox.Takes.same {net : Network τ} {channel : Channel} {parcel : Parcel}
    {outbox after : Outbox} {traced later : Traced τ}
    (h : Takes net channel parcel outbox traced after later) :
    ∃ failures disabled, after = { outbox with failures, disabled } := by
  cases h with
  | nothing => exact ⟨_, _, rfl⟩
  | posts =>
    unfold record
    split
    · exact ⟨_, _, rfl⟩
    · exact ⟨_, _, rfl⟩

namespace Worker

theorem run_check (worker : Worker) (trail : Trail σ) :
    (worker.check.run trail).2.outside = trail.outside ∧ (worker.check.run trail).1 =
      { worker with phase := if worker.outbox.goesOn then .waiting else .ended } := by
  unfold check Outbox.finish
  split
  · exact ⟨rfl, rfl⟩
  · split
    · exact ⟨rfl, rfl⟩
    · exact ⟨rfl, rfl⟩

/-- After a turn the consumer looks about, unless a fault has ended it. -/
theorem turn_handled (post : Post σ) (worker : Worker) (trail : Trail σ) :
    let handled := Desk.run ⟨worker.outbox, trail⟩ (Outbox.handleLogged post)
    (worker.turn post).run trail =
      (match handled.1 with
        | .ok () => check { worker with outbox := handled.2.outbox }
        | .error fault => pure
            { worker with outbox := handled.2.outbox, phase := .ended, crash := some fault } :
        Act σ Worker).run handled.2.trail := rfl

theorem run_turns_of_ended {post : Post σ} (fuel : Nat) {worker : Worker}
    (h : worker.phase = .ended) (trail : Trail σ) :
    (turns post fuel worker).run trail = (worker, trail) := by
  cases fuel with
  | zero => rfl
  | succ fuel =>
    rw [turns, if_neg (by simp [isReady, isAlive, h])]
    rfl

variable {worker : Worker}

structure Turn (before : Worker) (rest : List Parcel) (after : Worker) : Prop where
  parcels : after.outbox.parcels = rest
  running : after.outbox.running = before.outbox.running
  held : after.held = before.held
  waits : (before.outbox.running || !rest.isEmpty) = true → after.Awaits
  ends : (before.outbox.running || !rest.isEmpty) = false → after.phase = .ended

structure Turned (before after : Worker) : Prop where
  running : after.outbox.running = before.outbox.running
  /-- The consumer waits on, unless it was stopped and nothing is left. -/
  stays : after.Awaits ∨
    before.outbox.running = false ∧ after.phase = .ended ∧ after.outbox.parcels = []
  /-- A consumer that was stopped ends with the last parcel. -/
  ends : before.outbox.running = false → before.outbox.parcels ≠ [] →
    after.outbox.parcels = [] → after.phase = .ended

theorem Awaits.turned (ha : worker.Awaits) : Turned worker worker :=
  ⟨rfl, .inl ha, fun _ hn h => absurd h hn⟩

theorem Turned.last {rest : List Parcel} {after : Worker} (h : worker.Turn rest after)
    (hg : (worker.outbox.running || !rest.isEmpty) = false) : Turned worker after := by
  have hended := h.ends hg
  rw [Bool.or_eq_false_iff, Bool.not_eq_false', List.isEmpty_iff] at hg
  exact ⟨h.running, .inr ⟨hg.1, hended, h.parcels.trans hg.2⟩, fun _ _ _ => hended⟩

theorem Turned.next {rest : List Parcel} {between after : Worker} (h : worker.Turn rest between)
    (hg : (worker.outbox.running || !rest.isEmpty) = true) (ht : Turned between after) :
    Turned worker after := by
  have hrunning := h.running
  refine ⟨ht.running.trans hrunning, hrunning ▸ ht.stays, ?_⟩
  intro hs _ hnil
  refine ht.ends (hrunning.trans hs) ?_ hnil
  rw [h.parcels]
  simpa [hs] using hg

variable {net : Network τ} {channel : Channel} (ho : channel.isOpen = true)
  (hnet : net.Tolerates channel)

include ho hnet

theorem run_turn (ha : worker.Awaits) {parcel : Parcel} {rest : List Parcel}
    (hp : worker.outbox.parcels = parcel :: rest) {due : List HttpRequest}
    {trail : Trail (Traced τ)} (hl : Ledger channel due worker.outbox trail.outside.exchanges) :
    let done := (worker.turn (Client.post net.traced channel)).run trail
    Ledger channel due done.1.outbox done.2.outside.exchanges ∧ worker.Turn rest done.1 := by
  let handled := Desk.run ⟨worker.outbox, trail⟩
    (Outbox.handleLogged (Client.post net.traced channel))
  have hturn := turn_handled (Client.post net.traced channel) worker trail
  obtain ⟨hok, htakes⟩ := Desk.run_handle_takes ho hnet ⟨worker.outbox, trail⟩ ha.single hp
  have hledger := hl.takes hp htakes
  obtain ⟨failures, disabled, hsame⟩ := htakes.same
  change handled.1 = _ at hok
  change handled.2.outbox = _ at hsame
  obtain ⟨houtside, hworker⟩ :=
    run_check { worker with outbox := handled.2.outbox } handled.2.trail
  have hgoes : handled.2.outbox.goesOn = (worker.outbox.running || !rest.isEmpty) := by
    simp [hsame, Outbox.goesOn, ha.uncancelled]
  rw [hturn, hok]
  dsimp only
  rw [houtside, hworker]
  refine ⟨hledger, ?_, ?_, rfl, ?_, ?_⟩
  · change handled.2.outbox.parcels = rest
    rw [hsame]
  · change handled.2.outbox.running = worker.outbox.running
    rw [hsame]
  · intro hg
    refine ⟨?_, if_pos (hgoes.trans hg), ?_⟩
    · exact (congrArg Outbox.mode hsame).trans ha.single
    · exact (congrArg Outbox.cancelled hsame).trans ha.uncancelled
  · intro hg
    exact if_neg (Bool.eq_false_iff.mp (hgoes.trans hg))

theorem run_turns (fuel : Nat) (ha : worker.Awaits) {due : List HttpRequest}
    {trail : Trail (Traced τ)} (hl : Ledger channel due worker.outbox trail.outside.exchanges) :
    let done := (turns (Client.post net.traced channel) fuel worker).run trail
    Ledger channel due done.1.outbox done.2.outside.exchanges ∧ Turned worker done.1 ∧
      (worker.held = false → worker.outbox.parcels.length ≤ fuel →
        done.1.outbox.parcels = []) := by
  induction fuel generalizing worker trail with
  | zero =>
    refine ⟨hl, ha.turned, ?_⟩
    intro _ hlen
    exact List.length_eq_zero_iff.mp (Nat.le_zero.mp hlen)
  | succ fuel ih =>
    cases hr : worker.isReady with
    | false =>
      rw [turns, if_neg (by rw [hr]; exact Bool.false_ne_true)]
      refine ⟨hl, ha.turned, ?_⟩
      intro hheld _
      change worker.outbox.parcels = []
      simpa [isReady, isAlive, ha.waiting, hheld] using hr
    | true =>
      have hne : worker.outbox.parcels ≠ [] := by
        rintro hn
        simp [isReady, hn] at hr
      obtain ⟨parcel, rest, hp⟩ := List.exists_cons_of_ne_nil hne
      obtain ⟨hledger, hturn⟩ := run_turn ho hnet ha hp hl
      rw [turns, if_pos hr, Act.run_bind]
      cases hg : worker.outbox.running || !rest.isEmpty with
      | true =>
        obtain ⟨hledger, hturned, hdone⟩ := ih (hturn.waits hg) hledger
        refine ⟨hledger, .next hturn hg hturned, ?_⟩
        intro hheld hlen
        rw [hp] at hlen
        refine hdone (hturn.held.trans hheld) ?_
        rw [hturn.parcels]
        exact Nat.le_of_succ_le_succ hlen
      | false =>
        rw [run_turns_of_ended fuel (hturn.ends hg)]
        refine ⟨hledger, .last hturn hg, fun _ _ => ?_⟩
        rw [Bool.or_eq_false_iff, Bool.not_eq_false', List.isEmpty_iff] at hg
        exact hturn.parcels.trans hg.2

/-- A consumer that is stopped and free comes to its end, and one at its end has left nothing. -/
theorem run_settle_of_stop (ha : worker.Awaits) {due : List HttpRequest}
    {trail : Trail (Traced τ)} (hl : Ledger channel due worker.outbox trail.outside.exchanges) :
    let stopped : Worker := { worker with outbox := worker.outbox.stop }
    let done := (stopped.settle (Client.post net.traced channel)).run trail
    Ledger channel due done.1.outbox done.2.outside.exchanges ∧
      (done.1.isDone = true → done.1.outbox.parcels = []) ∧
      (worker.held = false → done.1.isDone = true) := by
  intro stopped done
  have hawaits : stopped.Awaits := ⟨ha.single, ha.waiting, ha.uncancelled⟩
  obtain ⟨hledger, hturned, hempty⟩ :=
    run_turns ho hnet stopped.outbox.parcels.length hawaits hl.stop
  refine ⟨hledger, ?_, ?_⟩
  · intro hdone
    obtain hwaits | ⟨-, -, hnil⟩ := hturned.stays
    · have hwaiting : done.1.phase = .waiting := hwaits.waiting
      simp [isDone, isAlive, hwaiting] at hdone
    · exact hnil
  · intro hheld
    -- The mark that stops the consumer waits among the parcels, so there is a last one.
    have hended : done.1.phase = .ended :=
      hturned.ends rfl (List.append_ne_nil_of_right_ne_nil _ (List.cons_ne_nil _ _))
        (hempty hheld le_rfl)
    simp [isDone, isAlive, hended]

end Worker

end AgentReporting
