import AgentReporting.Proofs.Kit.Renewal
import AgentReporting.Proofs.Kit.Requests
import AgentReporting.Proofs.Outbox.Ledger

/-! # Accepted reports

A client tells for each report whether it accepts it, while its consumer posts what it took.
Once the client is closed, what was posted is compared with what was accepted: a report that
comes after too many failures in a row is accepted, and it is lost.
-/

namespace AgentReporting

variable {τ α β : Type}

theorem filterMap_filter_eq_iff {p : α → Bool} {f : α → Option β} {l : List α} :
    (l.filter p).filterMap f = l.filterMap f ↔ ∀ a ∈ l, p a = false → f a = none := by
  induction l with
  | nil => simp
  | cons a l ih =>
    have hlength : ((l.filter p).filterMap f).length ≤ (l.filterMap f).length :=
      (List.filter_sublist.filterMap f).length_le
    cases hp : p a with
    | true =>
      rw [List.filter_cons_of_pos hp]
      cases hf : f a <;> simp [hf, hp, ih]
    | false =>
      -- An element of use that is dropped leaves the one side shorter for good.
      rw [List.filter_cons_of_neg (by simp [hp])]
      cases hf : f a with
      | none => simp [hf, ih]
      | some b =>
        constructor
        · intro h
          rw [h, List.filterMap_cons_some hf, List.length_cons] at hlength
          omega
        · intro h
          have hnone := h a List.mem_cons_self hp
          rw [hf] at hnone
          cases hnone

namespace Client

def deliver (net : Network τ) (client : Client) : Act τ Client := do
  match client.worker with
  | none => return client
  | some worker =>
    return { client with worker := some (← Worker.turns (post net client.channel) 1 worker) }

def isDrained (client : Client) : Bool := client.worker.all (·.isDone)

def isHeld (client : Client) : Bool := client.worker.any (·.held)

end Client

/-! ## Duties -/

inductive Occasion where
  | report (report : Report)
  /-- The consumer posts the next parcel, if there is one. -/
  -- A report that comes while a parcel is posted lines up behind it, and sees the failures before
  -- it only: it came before the delivery.
  | deliver
  /-- The consumer is kept from taking parcels, or it goes on. -/
  | hold (held : Bool)

/-- A report that a client was given, with its answer and the exchanges before it. -/
structure Handover where
  report : Report
  answer : Bool
  earlier : List Exchange

namespace Handover

/-- Whether too many exchanges in a row had failed before. -/
def isDropped (handover : Handover) : Bool := Exchange.givenUp handover.earlier

def request? (channel : Channel) (handover : Handover) : Option HttpRequest :=
  channel.posting? (.report (Route.ofReport handover.report) handover.report)

end Handover

/-- A client that reports, with what it leaves behind and what it was given so far. -/
structure Duty (τ : Type) where
  client : Client
  trail : Trail (Traced τ)
  handovers : List Handover := []

namespace Duty

def begin (client : Client) (trail : Trail τ) : Duty τ :=
  { client, trail := { trail with outside := { world := trail.outside } } }

variable (net : Network τ) (channel : Channel) (duty : Duty τ)

def exchanges : List Exchange := duty.trail.outside.exchanges

def posted : List HttpRequest := duty.exchanges.map (·.request)

def accepted : List Handover := duty.handovers.filter (·.answer)

/-- What is posted for the reports that come before too many failures in a row. -/
def due : List HttpRequest :=
  (duty.handovers.filter fun handover => !handover.isDropped).filterMap (·.request? channel)

def after : Occasion → Duty τ
  | .report report =>
    let (client, answer) := duty.client.submit report
    { duty with client, handovers := duty.handovers ++ [⟨report, answer, duty.exchanges⟩] }
  | .deliver =>
    let (client, trail) := (duty.client.deliver net.traced).run duty.trail
    { duty with client, trail }
  | .hold held => { duty with client := duty.client.hold held }

def afterAll (occasions : List Occasion) : Duty τ := occasions.foldl (after net) duty

def close (closeSocket : Bool) : Duty τ :=
  let (client, trail) := (duty.client.close net.traced closeSocket).run duty.trail
  { duty with client, trail }

end Duty

/-! ## A client that is started -/

namespace Client

theorem startSession_opens (net : Network τ) (site : Callsite) (channel : Channel)
    (config : Config) (caps : Capabilities) (settings : Option ReportSettings) :
    (startSession net site channel config caps settings).Gives fun client =>
      client.channel = channel ∧ client.closed = false := by
  refine .next fun _ => .next fun _ => ?_
  split
  · exact .next fun _ => .next fun _ => .next fun _ => .next fun _ => .next fun _ =>
      .next fun _ => .answer ⟨rfl, rfl⟩
  · exact .fault _

/-- A client that reports one by one, and was not given any report yet. -/
structure Ready (client : Client) : Prop where
  isOpen : client.closed = false
  channel : client.channel.isOpen = true
  worker : client.worker = some { outbox := { running := true }, phase := .waiting }

theorem start_ready (net : Network τ) (site : Callsite) (config : Config)
    (address token : String) (request : ClientRequest) (hr : request.disableReports = false)
    (hb : request.batchReports = false) :
    (start net site config address token request).Gives Ready := by
  refine start_gives net site config (fun _ => startSession_opens net site _ config _ _) ?_
  rintro client ⟨hchannel, hopen⟩
  rw [staffed, hr, hb]
  exact ⟨hopen, by rw [if_neg Bool.false_ne_true, hchannel], rfl⟩

end Client

/-! ## A client on duty -/

namespace Duty

/-- A client that is open, with what is due of it. -/
structure Serves (channel : Channel) (due : List HttpRequest) (client : Client)
    (past : List Exchange) : Prop where
  isOpen : client.closed = false
  through : client.channel = channel
  worker : ∃ worker, client.worker = some worker ∧ worker.Awaits ∧
    worker.outbox.running = true ∧ Ledger channel due worker.outbox past

/-- A client on duty has accepted every report that it was given. -/
structure Sound (channel : Channel) (duty : Duty τ) : Prop where
  serves : Serves channel (duty.due channel) duty.client duty.exchanges
  accepted : ∀ handover ∈ duty.handovers, handover.answer = true

variable {net : Network τ} {channel : Channel} {duty : Duty τ}

theorem sound_begin {client : Client} (h : client.Ready) (trail : Trail τ) :
    (begin client trail).Sound client.channel := by
  refine ⟨⟨h.isOpen, rfl, _, h.worker, ⟨rfl, rfl, rfl⟩, rfl, ⟨rfl, rfl, rfl⟩⟩, ?_⟩
  intro handover hc
  cases hc

section Serves

variable {client : Client} {due : List HttpRequest} {past : List Exchange}

theorem Serves.submit (h : Serves channel due client past) (report : Report) :
    (client.submit report).2 = true ∧
      Serves channel
        (due ++ if Exchange.givenUp past then [] else
          (channel.posting? (.report (Route.ofReport report) report)).toList)
        (client.submit report).1 past := by
  obtain ⟨worker, hw, ha, hrun, hl⟩ := h.worker
  have hsubmit : client.submit report = ({ client with worker := some { worker with
      outbox := worker.outbox.submit (Route.ofReport report) report } }, true) := by
    simp [Client.submit, hw, h.isOpen]
  have hledger := hl.submit (Route.ofReport report) report
  obtain ⟨parcels, hp⟩ := worker.outbox.submit_same (Route.ofReport report) report
  rw [hsubmit]
  rw [hp] at hledger ⊢
  refine ⟨rfl, h.isOpen, h.through, _, rfl, ?_, hrun, hledger⟩
  exact ⟨ha.single, ha.waiting, ha.uncancelled⟩

theorem Serves.hold (h : Serves channel due client past) (held : Bool) :
    Serves channel due (client.hold held) past := by
  obtain ⟨worker, hw, ha, hrun, hl⟩ := h.worker
  have hheld : (client.hold held).worker = some { worker with held } := by
    rw [Client.hold, hw]
    rfl
  exact ⟨h.isOpen, h.through, _, hheld, ⟨ha.single, ha.waiting, ha.uncancelled⟩, hrun, hl⟩

theorem Serves.deliver (ho : channel.isOpen = true) (hnet : net.Tolerates channel)
    {trail : Trail (Traced τ)} (h : Serves channel due client trail.outside.exchanges) :
    let done := (client.deliver net.traced).run trail
    Serves channel due done.1 done.2.outside.exchanges := by
  obtain ⟨worker, hw, ha, hrun, hl⟩ := h.worker
  have hthrough := h.through
  subst hthrough
  let turned := (Worker.turns (Client.post net.traced client.channel) 1 worker).run trail
  have hdeliver : (client.deliver net.traced).run trail =
      ({ client with worker := some turned.1 }, turned.2) := by
    rw [Client.deliver, hw]
    rfl
  obtain ⟨hledger, hturned, -⟩ := Worker.run_turns ho hnet 1 ha hl
  rw [hdeliver]
  refine ⟨h.isOpen, rfl, _, rfl, ?_, hturned.running.trans hrun, hledger⟩
  obtain hawaits | ⟨hstopped, -⟩ := hturned.stays
  · exact hawaits
  · rw [hrun] at hstopped
    cases hstopped

end Serves

theorem due_report (report : Report) (answer : Bool) (client : Client) :
    due channel { duty with
        client, handovers := duty.handovers ++ [⟨report, answer, duty.exchanges⟩] } =
      duty.due channel ++ if Exchange.givenUp duty.exchanges then [] else
        (channel.posting? (.report (Route.ofReport report) report)).toList := by
  rw [due, List.filter_append, List.filterMap_append]
  congr 1
  cases hg : Exchange.givenUp duty.exchanges with
  | true => simp [Handover.isDropped, hg]
  | false =>
    cases hr : channel.posting? (.report (Route.ofReport report) report) <;>
      simp [Handover.isDropped, Handover.request?, hg, hr]

theorem run_close_of_open {client : Client} (h : client.closed = false) (closeSocket : Bool)
    (trail : Trail (Traced τ)) :
    let stopped := (Client.stopWorker net.traced { client with closed := true }).run trail
    ∃ after : Trail (Traced τ), after.outside.exchanges = stopped.2.outside.exchanges ∧
      (client.close net.traced closeSocket).run trail =
        ({ stopped.1 with channel := { stopped.1.channel with isOpen := false } }, after) := by
  rw [Client.close, h, if_neg Bool.false_ne_true]
  cases closeSocket with
  | false =>
    refine ⟨_, ?_, rfl⟩
    rfl
  | true =>
    refine ⟨_, ?_, rfl⟩
    rfl

section Serving

variable (ho : channel.isOpen = true) (hnet : net.Tolerates channel)

include ho hnet

theorem sound_after (h : duty.Sound channel) (occasion : Occasion) :
    (duty.after net occasion).Sound channel := by
  cases occasion with
  | report report =>
    obtain ⟨hanswer, hserves⟩ := h.serves.submit report
    refine ⟨?_, ?_⟩
    · change Serves channel (due channel { duty with client := _, handovers := _ }) _ _
      rw [due_report]
      exact hserves
    · intro handover hc
      obtain hc | hc := List.mem_append.mp hc
      · exact h.accepted handover hc
      · rw [List.mem_singleton.mp hc]
        exact hanswer
  | deliver => exact ⟨h.serves.deliver ho hnet, h.accepted⟩
  | hold held => exact ⟨h.serves.hold held, h.accepted⟩

theorem sound_afterAll (h : duty.Sound channel) (occasions : List Occasion) :
    (duty.afterAll net occasions).Sound channel := by
  induction occasions generalizing duty with
  | nil => exact h
  | cons occasion occasions ih => exact ih (sound_after ho hnet h occasion)

/-! ## The end of the duty -/

structure Rests (channel : Channel) (due : List HttpRequest) (before after : Client)
    (past : List Exchange) : Prop where
  settled : ∃ worker, after.worker = some worker ∧ Ledger channel due worker.outbox past ∧
    (worker.isDone = true → worker.outbox.parcels = [])
  closed : after.closed = before.closed
  drains : before.isHeld = false → after.isDrained = true

theorem stopWorker_rests {client : Client} {due : List HttpRequest} {worker : Worker}
    (hw : client.worker = some worker) (ha : worker.Awaits) (hch : client.channel = channel)
    (trail : Trail (Traced τ)) (hl : Ledger channel due worker.outbox trail.outside.exchanges) :
    let done := (client.stopWorker net.traced).run trail
    Rests channel due client done.1 done.2.outside.exchanges := by
  subst hch
  obtain ⟨hledger, hdone, hends⟩ := Worker.run_settle_of_stop ho hnet ha hl
  let settled := (Worker.settle (Client.post net.traced client.channel)
    { worker with outbox := worker.outbox.stop }).run trail
  have hstop : (client.stopWorker net.traced).run trail =
      (if settled.1.isDone then pure { client with worker := some settled.1 } else do
        Act.error
          "Reports queue didn't finish uploading reports in a timely manner and was terminated."
        Act.warn "Terminating reports queue forcibly..."
        return { client with worker := some { settled.1 with outbox := settled.1.outbox.cancel } } :
        Act (Traced τ) Client).run settled.2 := by
    rw [Client.stopWorker, hw]
    rfl
  have hdrains : client.isHeld = false → settled.1.isDone = true := by
    intro h
    rw [Client.isHeld, hw] at h
    exact hends h
  rw [hstop]
  split
  · rename_i h
    exact ⟨⟨_, rfl, hledger, hdone⟩, rfl, fun _ => h⟩
  · rename_i h
    exact ⟨⟨_, rfl, hledger.cancel, fun hd => absurd hd h⟩, rfl, fun hh => absurd (hdrains hh) h⟩

structure Shut (client : Client) : Prop where
  closed : client.closed = true
  channel : client.channel.isOpen = false

/-- What closing makes of a duty. -/
structure Closes (channel : Channel) (duty ended : Duty τ) : Prop where
  shut : Shut ended.client
  handovers : ended.handovers = duty.handovers
  settled : ended.client.isDrained = true → ended.posted = duty.due channel
  drains : duty.client.isHeld = false → ended.client.isDrained = true

theorem closes (h : duty.Sound channel) (closeSocket : Bool) :
    Closes channel duty (duty.close net closeSocket) := by
  obtain ⟨worker, hw, ha, -, hl⟩ := h.serves.worker
  let closing : Client := { duty.client with closed := true }
  have hclosing : closing.worker = some worker := hw
  let stopped := (closing.stopWorker net.traced).run duty.trail
  have hrests : Rests channel (duty.due channel) closing stopped.1 stopped.2.outside.exchanges :=
    stopWorker_rests ho hnet hclosing ha h.serves.through duty.trail hl
  obtain ⟨trail, htrail, hclose⟩ := run_close_of_open h.serves.isOpen closeSocket duty.trail
  have hended : duty.close net closeSocket = { duty with
      client := { stopped.1 with channel := { stopped.1.channel with isOpen := false } }
      trail } := by
    rw [close, hclose]
  rw [hended]
  refine ⟨⟨hrests.closed, rfl⟩, rfl, ?_, hrests.drains⟩
  intro hdrained
  obtain ⟨last, hlast, hledger, hempty⟩ := hrests.settled
  have hdone : last.isDone = true := by
    change stopped.1.worker.all _ = true at hdrained
    rw [hlast] at hdrained
    exact hdrained
  have hsettled := hledger.settled
  rw [hempty hdone, List.filterMap_nil, List.append_nil, ← htrail] at hsettled
  exact hsettled

end Serving

/-! ## After the end -/

variable (net)

/-- Whatever comes after the end, nothing is posted and nothing is accepted. -/
theorem shut_after (h : Shut duty.client) (occasion : Occasion) :
    let after := duty.after net occasion
    Shut after.client ∧ after.posted = duty.posted ∧ after.accepted = duty.accepted := by
  cases occasion with
  | report report =>
    have hsubmit : duty.client.submit report = (duty.client, false) := by
      unfold Client.submit
      split
      · rfl
      · rw [if_pos h.closed]
    simp only [after, hsubmit]
    refine ⟨h, rfl, ?_⟩
    simp [accepted]
  | deliver =>
    have hpost (route body : String) :
        (Client.post net.traced duty.client.channel route body).Keeps Traced.exchanges := by
      refine .seq ?_ fun _ => .answer _
      rw [Channel.send, h.channel, if_neg Bool.false_ne_true]
      exact .fault _
    have hdeliver : (duty.client.deliver net.traced).Keeps Traced.exchanges ∧
        (duty.client.deliver net.traced).Gives Shut := by
      unfold Client.deliver
      split
      · exact ⟨.answer _, .answer h⟩
      · exact ⟨.seq (Worker.turns_keeps hpost 1 _) fun _ => .answer _,
          .next fun _ => .answer ⟨h.closed, h.channel⟩⟩
    refine ⟨hdeliver.2 duty.trail, ?_, rfl⟩
    exact congrArg (List.map (·.request)) (hdeliver.1 duty.trail)
  | hold held => exact ⟨⟨h.closed, h.channel⟩, rfl, rfl⟩

theorem shut_afterAll (h : Shut duty.client) (occasions : List Occasion) :
    (duty.afterAll net occasions).posted = duty.posted ∧
      (duty.afterAll net occasions).accepted = duty.accepted := by
  induction occasions generalizing duty with
  | nil => exact ⟨rfl, rfl⟩
  | cons occasion occasions ih =>
    obtain ⟨hshut, hposted, haccepted⟩ := shut_after net h occasion
    obtain ⟨hp, ha⟩ := ih hshut
    exact ⟨hp.trans hposted, ha.trans haccepted⟩

/-! ## What becomes of the reports -/

/-- Until a client is closed it accepts every report, and afterwards it accepts and posts none. If
the consumer came to its end, what was posted is what was accepted, once and in order, unless
a report was accepted after too many failures in a row: those are lost, and only those. -/
theorem accepted_posted_iff (net : Network τ) (site : Callsite) (config : Config)
    (address token : String) (request : ClientRequest) (hr : request.disableReports = false)
    (hb : request.batchReports = false) (trail : Trail τ) {client : Client}
    (hc : ((Client.start net site config address token request).result.run trail).1 = .ok client)
    (hnet : net.Tolerates client.channel) (occasions late : List Occasion) (closeSocket : Bool) :
    let started := ((Client.start net site config address token request).result.run trail).2
    let duty := (begin client started).afterAll net occasions
    let ended := duty.close net closeSocket
    let later := ended.afterAll net late
    later.accepted = duty.handovers ∧ later.posted = ended.posted ∧
      (duty.client.isHeld = false → ended.client.isDrained = true) ∧
      (ended.client.isDrained = true →
        ended.posted = duty.due client.channel ∧
        (ended.posted = later.accepted.filterMap (·.request? client.channel) ↔
          ∀ handover ∈ later.accepted, handover.isDropped = true →
            handover.request? client.channel = none)) := by
  intro started duty ended later
  have hready := Client.start_ready net site config address token request hr hb trail client hc
  have hsound : duty.Sound client.channel :=
    sound_afterAll hready.channel hnet (sound_begin hready started) occasions
  have hcloses := closes hready.channel hnet hsound closeSocket
  obtain ⟨hposted, haccepted⟩ := shut_afterAll net hcloses.shut late
  have hhandovers : later.accepted = duty.handovers := by
    rw [haccepted, accepted, hcloses.handovers]
    exact List.filter_eq_self.mpr hsound.accepted
  refine ⟨hhandovers, hposted, hcloses.drains, fun hdrained => ?_⟩
  have hdue := hcloses.settled hdrained
  refine ⟨hdue, ?_⟩
  rw [hdue, hhandovers, due, filterMap_filter_eq_iff]
  simp

/-! ## An Agent that takes no reports -/

def sessionOnly : Network Nat where
  http _ := do
    let count ← get
    set (count + 1)
    return .ok (if count = 0 then ⟨200, "\x7b\x7d"⟩ else ⟨500, ""⟩)
  automate _ := return .ok .null
  openSocket _ _ := return ()
  closeSocket := return ()

def namedRequest : ClientRequest :=
  { capabilities := [], settings := some { project := some "p", job := some "j" } }

def firstStart : Except Fault Client × Trail Nat :=
  (Client.start sessionOnly { directory := { absolute := true, parts := [] } } {}
    "http://localhost:8585" "t" namedRequest).result.run { outside := 0 }

def fiveReports : List Occasion :=
  (List.replicate 5 [.report (.test { name := "t" }), .deliver]).flatten

def trial (client : Client) : Duty Nat :=
  ((begin client firstStart.2).afterAll sessionOnly fiveReports).close sessionOnly true

theorem five_reports_due :
    ∃ client, firstStart.1 = .ok client ∧ (trial client).client.isDrained = true ∧
      (trial client).posted = (trial client).due client.channel := by
  have hstart : (firstStart.1.toOption.any fun client =>
      (trial client).client.isDrained) = true := by
    decide +kernel
  cases hc : firstStart.1 with
  | error fault =>
    rw [hc] at hstart
    cases hstart
  | ok client =>
    rw [hc] at hstart
    obtain ⟨-, -, -, hsettled⟩ := accepted_posted_iff sessionOnly
      { directory := { absolute := true, parts := [] } } {} "http://localhost:8585" "t" namedRequest
      rfl rfl { outside := 0 } hc (fun _ _ _ => rfl) fiveReports [] true
    have hdrained : (trial client).client.isDrained = true := hstart
    refine ⟨client, rfl, hdrained, ?_⟩
    unfold trial firstStart at hdrained ⊢
    exact (hsettled hdrained).1

/-- The fifth report after four failures is accepted, and it is never posted. -/
theorem fifth_report_lost :
    ∃ client, firstStart.1 = .ok client ∧ sessionOnly.Tolerates client.channel ∧
      (trial client).client.isDrained = true ∧
      ((trial client).accepted.filterMap (·.request? client.channel)).length = 5 ∧
      (trial client).posted.length = 4 := by
  have hstart : (firstStart.1.toOption.map fun client =>
      ((trial client).client.isDrained,
        ((trial client).accepted.filterMap (·.request? client.channel)).length,
        (trial client).posted.length)) = some (true, 5, 4) := by
    decide +kernel
  cases hc : firstStart.1 with
  | error fault =>
    rw [hc] at hstart
    cases hstart
  | ok client =>
    rw [hc] at hstart
    simp only [Except.toOption, Option.map_some, Option.some.injEq, Prod.mk.injEq] at hstart
    exact ⟨client, rfl, fun _ _ _ => rfl, hstart⟩

end Duty

end AgentReporting
