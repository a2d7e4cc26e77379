import AgentReporting.Proofs.Kit.Connection
import AgentReporting.Proofs.Kit.Continuing
import AgentReporting.Proofs.Kit.Handshake
import AgentReporting.Proofs.Outbox.Accepting

/-! # Whose connection is held

A session whose answer names a port has a connection opened to the host of the Agent and
that port, unless one is open already. A connection that is open then was kept from the
client that made way, or left behind by one that could not be replaced.
-/

namespace AgentReporting

variable {σ τ α β ρ : Type}

/-! ## What a success leads to -/

/-- Whenever an attempt succeeds, its answer and the outside before and after it are so related. -/
def Attempt.Leads (attempt : Attempt σ α) (R : σ → α → σ → Prop) : Prop :=
  ∀ trail a, (attempt.result.run trail).1 = .ok a →
    R trail.outside a (attempt.result.run trail).2.outside

namespace Attempt.Leads

variable {attempt : Attempt σ α} {f : α → Attempt σ β}

theorem fault {R : σ → α → σ → Prop} (fault : Fault) : Attempt.Leads (throw fault) R :=
  fun _ _ h => nomatch h

theorem seq (view : σ → ρ) {P : α → Prop} {R : ρ → β → σ → Prop} (h : attempt.Keeps view)
    (hg : attempt.Gives P) (hf : ∀ a, P a → (f a).Leads fun s => R (view s)) :
    Attempt.Leads (attempt >>= f) fun s => R (view s) := by
  intro trail b hb
  obtain ⟨a, ha, hb⟩ := bind_eq_ok_iff.mp hb
  have hkeeps : view (attempt.result.run trail).2.outside = view trail.outside := h trail
  rw [run_bind_of_ok ha, ← hkeeps]
  exact hf a (hg trail a ha) _ b hb

theorem next (view : σ → ρ) {R : ρ → β → σ → Prop} (h : attempt.Keeps view)
    (hf : ∀ a, (f a).Leads fun s => R (view s)) :
    Attempt.Leads (attempt >>= f) fun s => R (view s) :=
  .seq view (P := fun _ => True) h (fun _ _ _ => trivial) fun a _ => hf a

end Attempt.Leads

/-! ## A connection is opened -/

abbrev Peer := String × Int

/-- What a session makes of the connection that is open, if the field for the port holds this. -/
inductive Opens (address : String) (port : Value) (before : Option Peer) : Option Peer → Prop where
  | unasked (h : port.truthy = false) : Opens address port before before
  | asked {number : Int} (h : port.truthy = true) (hn : port.wholeNumber = .ok number) :
      Opens address port before (before.or (some (Client.hostOf address, number)))

theorem Opens.host {address : String} {port : Value} {before after : Option Peer} {peer' : Peer}
    (h : Opens address port before after) (hp : after = some peer') :
    before = some peer' ∨ peer'.1 = Client.hostOf address := by
  cases h with
  | unasked => exact .inl hp
  | asked =>
    cases before with
    | none =>
      cases hp
      exact .inr rfl
    | some => exact .inl hp

theorem Opens.named {address : String} {port : Value} {before after : Option Peer}
    (h : Opens address port before after) (ht : port.truthy = true) : ∃ number : Int,
      port.wholeNumber = .ok number ∧
        after = before.or (some (Client.hostOf address, number)) := by
  cases h with
  | unasked hf =>
    rw [ht] at hf
    cases hf
  | asked _ hn => exact ⟨_, hn, rfl⟩

theorem Liveness.run_connect {dial : String → Int → Act τ (Option String)} {host : String}
    {port : Int} {liveness : Liveness} {trail : Trail τ}
    (h : (((connect dial host port).run liveness).run trail).1.1 = .ok ()) :
    (((connect dial host port).run liveness).run trail).1.2.peer =
      liveness.peer.or (some (host, port)) := by
  simp only [connect, StateT.run_bind, StateT.run_get, pure_bind] at h ⊢
  split
  · rename_i ho
    obtain ⟨peer, hpeer⟩ := Option.isSome_iff_exists.mp ho
    rw [hpeer, Option.some_or]
    exact hpeer
  · rename_i ho
    rw [if_neg ho, run_lift_bind] at h
    rw [run_lift_bind, Option.not_isSome_iff_eq_none.mp ho, Option.none_or]
    generalize (dial host port).run trail = dialled at h ⊢
    obtain ⟨reason?, noted⟩ := dialled
    cases reason? with
    | none => rfl
    | some reason => cases h

namespace Network

variable (http : HttpRequest → StateM τ (Except Fault HttpAnswer))
  (automate : WireCommand → StateM τ (Except Fault Value))
  (dial : String → Int → Act τ (Option String)) (hangUp : Act τ (Option String))

def watched : Network (Traced (Held τ)) := (live http automate dial hangUp).traced

def peer (traced : Traced (Held τ)) : Option Peer := traced.world.liveness.peer

theorem watched_spares : (watched http automate dial hangUp).Spares peer := fun _ _ => rfl

theorem watched_holds :
    (watched http automate dial hangUp).Holds fun traced => (peer traced).isSome where
  spares _ _ := rfl
  opening host port trail := (live_holds http automate dial hangUp).opening host port
    { trail with outside := trail.outside.world }
  closing trail := (live_holds http automate dial hangUp).closing
    { trail with outside := trail.outside.world }

theorem openSocket_leads (host : String) (port : Int) :
    ((watched http automate dial hangUp).openSocket host port).Leads fun before _ after =>
      after.exchanges = before.exchanges ∧
        peer after = (peer before).or (some (host, port)) := by
  intro trail a h
  exact ⟨rfl, Liveness.run_connect h⟩

end Network

/-! ## A session is asked for -/

/-- The last exchange asked for a session through the channel, and this is what was answered. -/
def Granted (channel : Channel) (exchanges : List Exchange) (data : Value) : Prop :=
  ∃ earlier body answer,
    exchanges = earlier ++ [⟨Client.sessionCall channel body, .ok answer⟩] ∧
      answer.body? = some data

/-- What a session that was started leaves: its answer came last, and its port was seen to. -/
def Greets (channel : Channel) (before : Option Peer) (after : Traced (Network.Held τ)) : Prop :=
  ∃ data, Granted channel after.exchanges data ∧
    Opens channel.address (data.get "devSocketPort") before (Network.peer after)

namespace Client

theorem refuses_keeps (answer : HttpAnswer) (caps : Capabilities) : (do
    let (note, fault) := refusal answer caps
    Attempt.error ("Failed to initialize a session with the Agent" ++ note)
    throw fault : Attempt σ HttpAnswer).Keeps fun s => s :=
  .seq (.lift (.write _)) fun _ => .fault _

theorem requestSession_outside {net : Network σ} {channel : Channel} {caps : Capabilities}
    {body : String} (ho : channel.isOpen = true) (trail : Trail σ) :
    ((requestSession net channel caps body).result.run trail).2.outside =
      ((net.http (sessionCall channel body)).run trail.outside).2 := by
  refine (Attempt.Keeps.after _ (fun answer => .ite (.answer answer) (refuses_keeps answer caps))
    trail).trans ?_
  rw [Channel.send, if_pos ho]
  rfl

theorem start_leads_of_session {net : Network σ} {site : Callsite} {config : Config}
    {address token : String} {request : ClientRequest} (view : σ → ρ) {R : ρ → Client → σ → Prop}
    (hs : ∀ settings, (startSession net site { address, token } config request.capabilities
      settings).Leads fun s => R (view s))
    (hw : ∀ before client after (worker : Option Worker), R before client after →
      R before { client with worker } after) :
    (start net site config address token request).Leads fun s => R (view s) := by
  rw [start_eq]
  refine .next view (settingsFor_keeps site token request) fun settings trail client h => ?_
  obtain ⟨begun, hb, h⟩ := Attempt.bind_eq_ok_iff.mp h
  rw [Attempt.run_bind_of_ok hb]
  cases h
  obtain ⟨worker, hworker⟩ := staffed_eq config request begun
  rw [hworker]
  exact hw _ _ _ worker (hs settings trail begun hb)

theorem requestSession_leads (net : Network τ) {channel : Channel} {caps : Capabilities}
    {body : String} (ho : channel.isOpen = true) :
    (requestSession net.traced channel caps body).Leads fun before answer after =>
      after.exchanges = before.exchanges ++ [⟨sessionCall channel body, .ok answer⟩] := by
  intro trail answer h
  have hs := ((requestSession_eq_ok_iff ho).mp h).1
  rw [requestSession_outside ho]
  change trail.outside.exchanges ++
    [⟨_, ((net.http (sessionCall channel body)).run trail.outside.world).1⟩] = _
  exact congrArg (fun answer => trail.outside.exchanges ++ [Exchange.mk _ answer]) hs

section

variable (http : HttpRequest → StateM τ (Except Fault HttpAnswer))
  (automate : WireCommand → StateM τ (Except Fault Value))
  (dial : String → Int → Act τ (Option String)) (hangUp : Act τ (Option String))

theorem openSocket_leads (address : String) (port : Value) :
    (openSocket (Network.watched http automate dial hangUp) address port).Leads
      fun before _ after => after.exchanges = before.exchanges ∧
        Opens address port (Network.peer before) (Network.peer after) := by
  intro trail a h
  unfold openSocket at h ⊢
  cases ht : port.truthy with
  | false => exact ⟨rfl, .unasked ht⟩
  | true =>
    simp only [ht, Bool.not_true, Bool.false_eq_true, if_false] at h ⊢
    obtain ⟨number, hn, h⟩ := Attempt.bind_eq_ok_iff.mp h
    rw [Attempt.run_bind_of_ok hn]
    obtain ⟨hexchanges, hpeer⟩ :=
      Network.openSocket_leads http automate dial hangUp (hostOf address) number _ a h
    rw [hpeer]
    exact ⟨hexchanges, .asked ht hn⟩

theorem answer_leads (channel : Channel) (caps : Capabilities) (answer : HttpAnswer)
    (client : Value → Session → Client) :
    Attempt.Leads (do
      let data ← answerFields answer
      let session ← sessionIn caps data
      Attempt.info s!"Session [{session.id.display}] initialized"
      showWarnings (data.get "warnings")
      openSocket (Network.watched http automate dial hangUp) channel.address
        (data.get "devSocketPort")
      return client data session) fun before _ after =>
        after.exchanges = before.exchanges ∧ ∃ data, answer.body? = some data ∧
          Opens channel.address (data.get "devSocketPort") (Network.peer before)
            (Network.peer after) := by
  refine .seq (fun s => s) (P := fun data => answer.body? = some data) (answerFields_keeps _)
    (fun trail data h => (answerFields_eq_ok_iff.mp h).1) fun data hd => ?_
  refine .next (fun s => s) (sessionIn_keeps _ _) fun session => ?_
  refine .next (fun s => s) (.lift (.write _)) fun _ => ?_
  refine .next (fun s => s) (showWarnings_keeps _) fun _ => ?_
  intro trail result h
  obtain ⟨_, hopened, -⟩ := Attempt.bind_eq_ok_iff.mp h
  obtain ⟨hexchanges, hopens⟩ := openSocket_leads http automate dial hangUp _ _ _ _ hopened
  rw [Attempt.run_bind_of_ok hopened]
  exact ⟨hexchanges, data, hd, hopens⟩

theorem startSession_leads (site : Callsite) {channel : Channel} (ho : channel.isOpen = true)
    (config : Config) (caps : Capabilities) (settings : Option ReportSettings) :
    (startSession (Network.watched http automate dial hangUp) site channel config caps
      settings).Leads fun before _ after => Greets channel (Network.peer before) after := by
  have hspares := Network.watched_spares http automate dial hangUp
  let R (before : Option Peer) (_ : Client) (after : Traced (Network.Held τ)) : Prop :=
    Greets channel before after
  refine .next Network.peer (R := R) (.lift (.write _)) fun _ => ?_
  refine .next Network.peer (R := R) (checkVersion_keeps hspares.prompt _ _ _) fun _ => ?_
  split
  · rename_i body _
    intro trail client h
    obtain ⟨answer, ha, h⟩ := Attempt.bind_eq_ok_iff.mp h
    have hpeer := requestSession_keeps (hspares (sessionCall channel body)) caps trail
    have hlogged := requestSession_leads (Network.live http automate dial hangUp) ho trail answer ha
    obtain ⟨hexchanges, data, hd, hopens⟩ := answer_leads http automate dial hangUp channel caps
      answer _ _ _ h
    rw [Attempt.run_bind_of_ok ha]
    refine ⟨data, ⟨_, body, answer, hexchanges.trans hlogged, hd⟩, ?_⟩
    exact hpeer ▸ hopens
  · exact .fault _

theorem start_leads (site : Callsite) (config : Config) (address token : String)
    (request : ClientRequest) :
    (start (Network.watched http automate dial hangUp) site config address token request).Leads
      fun before _ after => Greets { address, token } (Network.peer before) after :=
  start_leads_of_session Network.peer
    (R := fun before _ after => Greets { address, token } before after)
    (startSession_leads http automate dial hangUp site rfl config _) fun _ _ _ _ h => h

theorem start_through (net : Network σ) (site : Callsite) (config : Config)
    (address token : String) (request : ClientRequest) :
    (start net site config address token request).Gives fun client =>
      client.channel = { address, token } ∧ client.closed = false := by
  refine start_gives net site config (fun _ => startSession_opens net site _ config _ _) ?_
  intro client hc
  obtain ⟨worker, hw⟩ := staffed_eq config request client
  rw [hw]
  exact hc

end

end Client

namespace Kit

/-! ## The client makes way -/

def Current (kit : Kit σ) (client : Client) : Prop :=
  ∃ id, kit.cached = some id ∧ kit.clients[id]? = some client ∧ client.closed = false

/-- Whether the connection of the client is kept for the request, where that can be told. -/
def Decides (site : Callsite) (request : ClientRequest) (kit : Kit σ) (client : Client)
    (keep : Bool) : Prop :=
  ((keepsSocket site client request).result.run { outside := kit }).1 = .ok keep

theorem Current.unique {kit : Kit σ} {client other : Client} (h : Current kit client)
    (h' : Current kit other) : client = other := by
  obtain ⟨id, hc, hi, -⟩ := h
  obtain ⟨id', hc', hi', -⟩ := h'
  obtain rfl : id = id' := Option.some.inj (hc.symm.trans hc')
  exact Option.some.inj (hi.symm.trans hi')

theorem Decides.unique {site : Callsite} {request : ClientRequest} {kit : Kit σ} {client : Client}
    {keep other : Bool} (h : Decides site request kit client keep)
    (h' : Decides site request kit client other) : keep = other :=
  Except.ok.inj (h.symm.trans h')

theorem decides_true_iff {site : Callsite} {request : ClientRequest} {kit : Kit σ}
    {client : Client} : Decides site request kit client true ↔ Continues site request client :=
  keepsSocket_eq_true_iff _

theorem Decides.not_continues {site : Callsite} {request : ClientRequest} {kit : Kit σ}
    {client : Client} (h : Decides site request kit client false) :
    ¬ Continues site request client :=
  fun hc => nomatch h.unique (decides_true_iff.mpr hc)

def peer (kit : Kit (Traced (Network.Held τ))) : Option Peer := Network.peer kit.world

variable {before after retired : Kit (Traced (Network.Held τ))} {site : Callsite}
  {request : ClientRequest}

/-- What is left of the connection once the cached client has made way. -/
inductive Vacates (site : Callsite) (request : ClientRequest)
    (before retired : Kit (Traced (Network.Held τ))) : Prop where
  | idle (hi : Idle before) (hp : peer retired = peer before)
  | replaced {id : Nat} {old ended : Client} {keep : Bool} (hc : before.cached = some id)
      (hi : before.clients[id]? = some old) (ho : old.closed = false)
      (he : retired.clients[id]? = some ended) (hended : ended.closed = true)
      (hk : Decides site request before old keep)
      (hp : peer retired = if keep then peer before else none)

theorem Vacates.asked {caps : Capabilities}
    (h : Vacates site { request with capabilities := caps } before retired) :
    Vacates site request before retired := by
  cases h with
  | idle hi hp => exact .idle hi hp
  | replaced hc hi ho he hended hk hp => exact .replaced hc hi ho he hended hk hp

variable {http : HttpRequest → StateM τ (Except Fault HttpAnswer)}
  {automate : WireCommand → StateM τ (Except Fault Value)}
  {dial : String → Int → Act τ (Option String)} {hangUp : Act τ (Option String)}

theorem Ends.peer_eq_none {id : Nat} {client : Client}
    (h : Ends (Network.watched http automate dial hangUp) true id before after)
    (hi : before.clients[id]? = some client) (ho : client.closed = false) : peer after = none := by
  cases h with
  | idle h =>
    rw [h client hi] at ho
    cases ho
  | @ended other _ trail _ ho' =>
    have hholds := Network.watched_holds http automate dial hangUp
    exact Option.not_isSome_iff_eq_none.mp
      (Bool.eq_false_iff.mp (other.close_disconnects hholds ho' trail))

theorem Single.vacates (hs : Single before)
    (h : Retires (Network.watched http automate dial hangUp) site request before retired) :
    Vacates site request before retired := by
  cases h with
  | nobody h => exact .idle (hs.idle_of_cached h) rfl
  | @client id client keep trail _ hc hi hk h =>
    cases ho : client.closed with
    | true =>
      have hidle := hs.idle_of_closed hc hi ho
      cases h with
      | idle => exact .idle hidle rfl
      | ended hi' ho' => exact (hidle.not_open hi' ho').elim
    | false =>
      have hkeep : Decides site request before client keep :=
        (Act.Quiet.same (keepsSocket_quiet site client request) _ _).trans hk
      obtain ⟨ended, he, hended⟩ := h.ends hi
      refine .replaced hc hi ho he hended hkeep ?_
      cases keep with
      | true =>
        have hsame := h.view_eq (Network.watched_spares http automate dial hangUp)
        exact hsame
      | false => exact h.peer_eq_none hi ho

/-! ## One request -/

/-- The connection after a client was started whose Agent asked for one to this port. -/
structure Peered (site : Callsite) (request : ClientRequest)
    (before : Kit (Traced (Network.Held τ))) (client : Client) (port : Int)
    (after : Kit (Traced (Network.Held τ))) : Prop where
  /-- Where none was open, the one that was asked for is. -/
  fresh : peer before = none → peer after = some (Client.hostOf client.channel.address, port)
  /-- So it is where the client that made way has other names or no names, or an older Agent. -/
  replaced : ∀ old, Current before old → ¬ Continues site request old →
    peer after = some (Client.hostOf client.channel.address, port)
  /-- One that was left to a client of the same Agent goes on. -/
  kept : ∀ old peer', Current before old → Continues site request old →
    old.channel.address = client.channel.address → peer before = some peer' →
      peer after = some peer'

theorem Vacates.peered (hv : Vacates site request before retired) {client : Client} {port : Int}
    (hp : peer after = (peer retired).or (some (Client.hostOf client.channel.address, port))) :
    Peered site request before client port after := by
  cases hv with
  | idle hidle hr =>
    refine ⟨?_, ?_, ?_⟩
    · intro hnone
      rw [hp, hr, hnone, Option.none_or]
    · rintro old ⟨id, -, hi, ho⟩
      exact (hidle.not_open hi ho).elim
    · rintro old peer' ⟨id, -, hi, ho⟩
      exact (hidle.not_open hi ho).elim
  | @replaced id old ended keep hc hi ho _ _ hk hr =>
    have hcurrent : Current before old := ⟨id, hc, hi, ho⟩
    refine ⟨?_, ?_, ?_⟩
    · intro hnone
      rw [hp, hr, hnone, ite_self, Option.none_or]
    · intro other hc' hn
      obtain rfl := hcurrent.unique hc'
      cases keep with
      | true => exact absurd (decides_true_iff.mp hk) hn
      | false => rw [hp, hr, if_neg Bool.false_ne_true, Option.none_or]
    · intro other peer' hc' hn _ hpeer
      obtain rfl := hcurrent.unique hc'
      obtain rfl := hk.unique (decides_true_iff.mpr hn)
      rw [hp, hr, if_pos rfl, hpeer, Option.some_or]

/-! ## Every history -/

section

variable {trail : Trail (Kit (Traced (Network.Held τ)))} {id : Nat} {client : Client}

/-- A client that is new was started: its session was granted, and its port was seen to. -/
theorem Single.greets (hs : Single before) (hb : trail.outside = before)
    (h : Serves (Network.watched http automate dial hangUp) site request trail (.ok (id, client))
      after) (hnew : before.clients[id]? = none) :
    ∃ retired, Vacates site request before retired ∧
      Greets client.channel (peer retired) after.world := by
  subst hb
  cases h with
  | shared h =>
    rw [(shared?_eq_some.mp h).2.1] at hnew
    cases hnew
  | renewed _ _ h =>
    cases h with
    | @started retired _ world hr ht hstart =>
      have hthrough := (Client.start_through _ site _ _ _ _ world client hstart).1
      have hgreets := Client.start_leads http automate dial hangUp site _ _ _ _ world client hstart
      rw [ht] at hgreets
      exact ⟨retired, (hs.vacates hr).asked, hthrough ▸ hgreets⟩

end

/-- A connection is left behind: the open client makes way with its connection kept, because its
session could go on, and no client of the same Agent is got in its place. -/
structure Misplaced (site : Callsite) (request : ClientRequest)
    (before after : Kit (Traced (Network.Held τ))) (answer : Except Fault (Nat × Client)) :
    Prop where
  connected : (peer before).isSome = true
  left : ∃ (id : Nat) (old ended : Client), before.cached = some id ∧
    before.clients[id]? = some old ∧ old.closed = false ∧ after.clients[id]? = some ended ∧
      ended.closed = true ∧ Continues site request old ∧ ∀ id' client,
        answer = .ok (id', client) → old.channel.address ≠ client.channel.address

def Misplaces (net : Network (Traced (Network.Held τ)))
    (trail : Trail (Kit (Traced (Network.Held τ)))) : Demand → Prop
  | .getClient site request =>
    let done := (getClient net site request).result.run trail
    Misplaced site request trail.outside done.2.outside done.1
  | _ => False

theorem MakesWay.misplaced {answer : Except Fault (Nat × Client)}
    (h : MakesWay (fun traced => (Network.peer traced).isSome) site request before after)
    (ha : ¬ ∃ got, answer = .ok got) : Misplaced site request before after answer := by
  obtain ⟨id, old, ended, hc, hi, ho, he, hended, hk⟩ := h.keeps
  exact ⟨h.connected, id, old, ended, hc, hi, ho, he, hended, decides_true_iff.mp hk,
    fun id' client hgot => absurd ⟨(id', client), hgot⟩ ha⟩

def Housed (kit : Kit (Traced (Network.Held τ))) : Prop :=
  ∀ (id : Nat) (client : Client) (peer' : Peer), kit.clients[id]? = some client →
    client.closed = false → peer kit = some peer' →
      peer'.1 = Client.hostOf client.channel.address

structure Homed (kit : Kit (Traced (Network.Held τ))) : Prop where
  unstranded : ¬ Stranded (fun traced => (Network.peer traced).isSome) kit
  host : Housed kit

theorem homed_opening (world : τ) :
    Homed (opening (τ := Traced (Network.Held τ)) { world := { world } }).outside :=
  ⟨(fun h => nomatch h.connected), fun _ _ _ hi => nomatch hi⟩

section

variable {trail : Trail (Kit (Traced (Network.Held τ)))} {id : Nat} {client : Client}

/-- The connection that is left, if it is open, goes to the host of the client that made way. -/
theorem Vacates.host (hv : Vacates site request before retired) (hb : Homed before)
    {peer' : Peer} (hp : peer retired = some peer') : ∃ (id : Nat) (old ended : Client),
      before.cached = some id ∧ before.clients[id]? = some old ∧ old.closed = false ∧
        retired.clients[id]? = some ended ∧ ended.closed = true ∧
          Decides site request before old true ∧ peer before = some peer' ∧
            peer'.1 = Client.hostOf old.channel.address := by
  cases hv with
  | idle hi hr =>
    refine (hb.unstranded ⟨hi, ?_⟩).elim
    exact Option.isSome_iff_exists.mpr ⟨peer', hr.symm.trans hp⟩
  | @replaced id old ended keep hc hi ho he hended hk hr =>
    rw [hp] at hr
    cases keep with
    | false => cases hr
    | true =>
      have hp' : peer before = some peer' := hr.symm
      exact ⟨id, old, ended, hc, hi, ho, he, hended, hk, hp', hb.host id old peer' hi ho hp'⟩

theorem Single.housed_of_serves (hs : Single trail.outside) (hb : Homed trail.outside)
    {answer : Except Fault (Nat × Client)}
    (h : Serves (Network.watched http automate dial hangUp) site request trail answer after)
    (hm : ¬ Misplaced site request trail.outside after answer) : Housed after := by
  intro id client peer' hi ho hp
  cases h with
  | refused => exact hb.host id client peer' hi ho hp
  | shared => exact hb.host id client peer' hi ho hp
  | renewed htarget hn h =>
    cases h with
    | unnamed => exact hb.host id client peer' hi ho hp
    | failed hr => exact ((hs.retires hr).2.not_open hi ho).elim
    | @started retired started world hr ht hstart =>
      have hidle := (hs.retires hr).2
      have hthrough := (Client.start_through _ site _ _ _ _ world started hstart).1
      obtain ⟨data, -, hopens⟩ :=
        Client.start_leads http automate dial hangUp site _ _ _ _ world started hstart
      rw [ht] at hopens
      obtain rfl : client = started := by
        rw [List.getElem?_append] at hi
        split at hi
        · exact (hidle.not_open hi ho).elim
        · exact (List.mem_singleton.mp (List.mem_of_getElem? hi))
      rw [hthrough]
      rcases hopens.host hp with hleft | hhost
      · obtain ⟨other, old, ended, hc, hold, hopen, he, hended, hk, hpeer, hhome⟩ :=
          (hs.vacates hr).asked.host hb hleft
        rw [hhome]
        by_contra hne
        refine hm ⟨Option.isSome_iff_exists.mpr ⟨peer', hpeer⟩, other, old, ended, hc, hold,
          hopen, ?_, hended, decides_true_iff.mp hk, ?_⟩
        · have hlt := (List.getElem?_eq_some_iff.mp he).1
          exact (List.getElem?_append_left hlt).trans he
        · rintro _ _ ⟨⟩ hsame
          rw [hthrough] at hsame
          exact hne (congrArg Client.hostOf hsame)
      · exact hhost

end

theorem Ends.housed {id : Nat}
    (h : Ends (Network.watched http automate dial hangUp) true id before after)
    (hb : Housed before) : Housed after := by
  have hends := h
  cases h with
  | idle => exact hb
  | ended hi ho =>
    have hnone := hends.peer_eq_none hi ho
    intro _ _ _ _ _ hp
    rw [hnone] at hp
    cases hp

theorem Clears.housed (h : Clears (Network.watched http automate dial hangUp) before after)
    (hb : Housed before) : Housed after := by
  cases h with
  | nobody => exact hb
  | client _ h => exact h.housed hb

theorem ShutsDown.housed (h : ShutsDown (Network.watched http automate dial hangUp) before after)
    (hb : Housed before) : Housed after := by
  cases h with
  | nobody => exact hb
  | client _ h => exact h.housed hb

theorem Persists.housed (h : Persists before after) (hp : peer after = peer before)
    (hb : Housed before) : Housed after := by
  intro id client peer' hi ho hpeer
  obtain ⟨old, hold, hc⟩ := h.clients id client hi
  rw [hc.address]
  exact hb id old peer' hold (hc.closed ▸ ho) (hp.symm.trans hpeer)

/-- What a demand that leaves no connection behind makes of one that is where it belongs. -/
theorem homed_meet (demand : Demand) (trail : Trail (Kit (Traced (Network.Held τ))))
    (hs : Single trail.outside) (hb : Homed trail.outside)
    (hm : ¬ Misplaces (Network.watched http automate dial hangUp) trail demand) :
    Homed ((demand.meet (Network.watched http automate dial hangUp)).run trail).2.outside := by
  have hholds := Network.watched_holds http automate dial hangUp
  have hspares := Network.watched_spares http automate dial hangUp
  constructor
  · intro h
    -- a connection is left behind by this demand or an earlier one, and neither may be
    obtain ⟨hgets, h | h⟩ := (stranded_meet_iff hholds demand trail hs).mp h
    · exact hb.unstranded h
    · cases demand with
      | getClient site request =>
        exact hm (h.misplaced hgets)
      | _ => exact h
  · cases demand with
    | getClient site request => exact hs.housed_of_serves hb (getClient_serves _ _ _ _) hm
    | close id => exact (run_closeClient _ true id trail).housed hb.host
    | clear => exact (run_clear _ trail).housed hb.host
    | shutdown site => exact (run_shutdownAll _ site trail hs).housed hb.host
    | report id content =>
      exact (report_persists id content trail).housed
        (updateClient_keeps (fun client => .answer (client.submit content)) id trail) hb.host
    | hold held id =>
      exact (hold_persists held id trail).housed
        (updateClient_keeps (fun client => .answer (client.hold held, ())) id trail) hb.host
    | settle =>
      exact (settle_persists _ trail).housed (settle_keeps hspares trail) hb.host

def Steady (net : Network (Traced (Network.Held τ)))
    (start : Trail (Kit (Traced (Network.Held τ)))) (demands : List Demand) : Prop :=
  ∀ earlier demand later, demands = earlier ++ demand :: later →
    ¬ Misplaces net (meets net start earlier) demand

theorem homed_meets (demands : List Demand) (trail : Trail (Kit (Traced (Network.Held τ))))
    (hs : Single trail.outside) (hb : Homed trail.outside)
    (hsteady : Steady (Network.watched http automate dial hangUp) trail demands) :
    Homed (meets (Network.watched http automate dial hangUp) trail demands).outside := by
  induction demands generalizing trail with
  | nil => exact hb
  | cons demand rest ih =>
    refine ih _ (single_meet _ demand trail hs) (homed_meet demand trail hs hb ?_) ?_
    · exact hsteady [] demand rest rfl
    · rintro earlier next later rfl
      exact hsteady (demand :: earlier) next later rfl

/-- The exchanges so far are put away: those that are noted from here on are new. -/
def afresh (trail : Trail (Kit (Traced (Network.Held τ)))) :
    Trail (Kit (Traced (Network.Held τ))) :=
  let world := { trail.outside.world with exchanges := [] }
  { trail with outside := { trail.outside with world } }

/-- After any history, a request that gets a new client has had its session granted last; where the
answer names a port, the connection that is held is the one that was asked for, or the one
that was left to the client by another one of the same Agent. -/
theorem connection_follows_session (http : HttpRequest → StateM τ (Except Fault HttpAnswer))
    (automate : WireCommand → StateM τ (Except Fault Value))
    (dial : String → Int → Act τ (Option String)) (hangUp : Act τ (Option String)) (world : τ)
    (demands : List Demand) (site : Callsite) (request : ClientRequest) (id : Nat)
    (client : Client) :
    let net := Network.watched http automate dial hangUp
    let start := opening { world := { world } }
    let trail := afresh (meets net start demands)
    let done := (getClient net site request).result.run trail
    done.1 = .ok (id, client) → trail.outside.clients[id]? = none →
      ∃ data, Granted client.channel done.2.outside.world.exchanges data ∧
        ((data.get "devSocketPort").truthy = true → ∃ port,
          (data.get "devSocketPort").wholeNumber = .ok port ∧
            Peered site request trail.outside client port done.2.outside ∧
            (Steady net start demands → ¬ Misplaces net trail (.getClient site request) →
              ∃ port', peer done.2.outside =
                some (Client.hostOf client.channel.address, port'))) := by
  intro net start trail done hdone hnew
  have hs : Single trail.outside := by
    have h := single_meets net demands start (single_opening _)
    exact ⟨h.current, h.known, h.hook, h.noDrivers⟩
  have hserves := getClient_serves net site request trail
  change Serves net site request trail done.1 done.2.outside at hserves
  have hserved := hserves
  rw [hdone] at hserved
  obtain ⟨retired, hv, data, hgranted, hopens⟩ := hs.greets rfl hserved hnew
  refine ⟨data, hgranted, fun ht => ?_⟩
  obtain ⟨port, hport, hpeer⟩ := hopens.named ht
  refine ⟨port, hport, hv.peered hpeer, fun hsteady hm => ?_⟩
  have hb := homed_meets demands start (single_opening _) (homed_opening world) hsteady
  have hhoused : Housed done.2.outside := hs.housed_of_serves
    ⟨fun h => hb.unstranded ⟨h.idle, h.connected⟩, hb.host⟩ hserves hm
  obtain ⟨hi, ho⟩ := hserved.isOpen
  obtain ⟨⟨host, port'⟩, hsome⟩ : ∃ peer', peer done.2.outside = some peer' := by
    rw [peer, hpeer]
    cases peer retired with
    | none => exact ⟨_, rfl⟩
    | some peer' => exact ⟨_, rfl⟩
  obtain rfl := hhoused id client (host, port') hi ho hsome
  exact ⟨port', hsome⟩

def askedPort (exchange : Exchange) : Option (Bool × Option Int) :=
  (exchange.answer.toOption.bind (·.body?)).map fun data =>
    ((data.get "devSocketPort").truthy, (data.get "devSocketPort").wholeNumber.toOption)

theorem askedPort_of_granted {channel : Channel} {exchanges : List Exchange} {data : Value}
    (h : Granted channel exchanges data) : exchanges.getLast?.bind askedPort =
      some ((data.get "devSocketPort").truthy,
        (data.get "devSocketPort").wholeNumber.toOption) := by
  obtain ⟨earlier, body, answer, rfl, hd⟩ := h
  simp [askedPort, Except.toOption, hd]

def jobRequest (id job : String) : ClientRequest :=
  { capabilities := [(trackingKey, .str id)], token := some "t", config := some {}
    settings := some { project := some "p", job := some job } }

def bareSite : Callsite := { directory := { absolute := true, parts := [] } }

def grantedPort (port : String) : HttpAnswer :=
  ⟨200, "\x7b\"capabilities\": \x7b\x7d, \"version\": \"0.64.32\", \"devSocketPort\": " ++
    port ++ "\x7d"⟩

def inTurn : HttpRequest → StateM (List HttpAnswer) (Except Fault HttpAnswer) := fun _ answers =>
  match answers with
  | [] => (.error (.transfer .connect "refused"), [])
  | answer :: rest => (.ok answer, rest)

def listening : Network (Traced (Network.Held (List HttpAnswer))) :=
  Network.watched inTurn (fun _ => return .ok .null) (fun _ _ => return none) (return none)

def twoPorts : Trail (Kit (Traced (Network.Held (List HttpAnswer)))) :=
  opening { world := { world := [grantedPort "5000", grantedPort "6000"] } }

def firstGranted : Trail (Kit (Traced (Network.Held (List HttpAnswer)))) :=
  afresh (meets listening twoPorts [.getClient bareSite (jobRequest "a" "j")])

theorem firstGranted_continues : ∃ old, Current firstGranted.outside old ∧
    ¬ Continues bareSite (jobRequest "b" "k") old := by
  have hold : (firstGranted.outside.cached.bind (firstGranted.outside.clients[·]?)).map
      (fun old => (old.closed, ((keepsSocket bareSite old (jobRequest "b" "k")).result.run
        { outside := firstGranted.outside }).1.toOption)) = some (false, some false) := by
    decide +kernel
  obtain ⟨old, ho, heq⟩ := Option.map_eq_some_iff.mp hold
  obtain ⟨id, hc, hi⟩ := Option.bind_eq_some_iff.mp ho
  obtain ⟨hopen, hk⟩ := Prod.mk.inj heq
  have hdecides : Decides bareSite (jobRequest "b" "k") firstGranted.outside old false :=
    eq_ok_of_toOption hk
  exact ⟨old, ⟨id, hc, hi, hopen⟩, hdecides.not_continues⟩

def secondGranted :=
  (getClient listening bareSite (jobRequest "b" "k")).result.run firstGranted

theorem secondGranted_starts : ∃ client, secondGranted.1 = .ok (1, client) := by
  have hid : secondGranted.1.toOption.map (·.1) = some 1 := by decide +kernel
  obtain ⟨⟨id, client⟩, hgot, rfl⟩ := Option.map_eq_some_iff.mp hid
  exact ⟨client, eq_ok_of_toOption hgot⟩

theorem secondGranted_names :
    secondGranted.2.outside.world.exchanges.getLast?.bind askedPort = some (true, some 6000) := by
  decide +kernel

theorem firstGranted_connects : (peer firstGranted.outside).map (·.2) = some 5000 := by
  decide +kernel

theorem firstGranted_alone : firstGranted.outside.clients[1]? = none := by
  have hlen : firstGranted.outside.clients.length = 1 := by decide +kernel
  exact List.getElem?_eq_none (Nat.le_of_eq hlen)

theorem firstGranted_steady :
    Steady listening twoPorts [.getClient bareSite (jobRequest "a" "j")] := by
  rintro earlier demand later heq hm
  cases earlier with
  | nil =>
    obtain ⟨rfl, -⟩ := List.cons.inj heq
    exact nomatch hm.connected
  | cons first rest => simp at heq

theorem secondGranted_placed :
    ¬ Misplaces listening firstGranted (.getClient bareSite (jobRequest "b" "k")) := by
  rintro ⟨-, id, client, ended, hc, hi, ho, -, -, hk, -⟩
  obtain ⟨old, hold, hother⟩ := firstGranted_continues
  obtain rfl := hold.unique ⟨id, hc, hi, ho⟩
  exact hother hk

/-- A client is replaced under the names of another job, and gets the connection it asks for. -/
theorem other_job_is_connected :
    (peer firstGranted.outside).map (·.2) = some 5000 ∧
      Steady listening twoPorts [.getClient bareSite (jobRequest "a" "j")] ∧
      ¬ Misplaces listening firstGranted (.getClient bareSite (jobRequest "b" "k")) ∧
      ∃ client data, secondGranted.1 = .ok (1, client) ∧
        Granted client.channel secondGranted.2.outside.world.exchanges data ∧
          peer secondGranted.2.outside = some (Client.hostOf client.channel.address, 6000) := by
  refine ⟨firstGranted_connects, firstGranted_steady, secondGranted_placed, ?_⟩
  obtain ⟨client, hok⟩ := secondGranted_starts
  obtain ⟨data, hgranted, hnamed⟩ := connection_follows_session inTurn (fun _ => return .ok .null)
    (fun _ _ => return none) (return none) [grantedPort "5000", grantedPort "6000"]
    [.getClient bareSite (jobRequest "a" "j")] bareSite (jobRequest "b" "k") 1 client hok
    firstGranted_alone
  obtain ⟨ht, hn⟩ := Prod.mk.inj (Option.some.inj
    ((askedPort_of_granted hgranted).symm.trans secondGranted_names))
  obtain ⟨port, hp, hpeered, -⟩ := hnamed ht
  obtain rfl : port = 6000 := Except.ok.inj (hp.symm.trans (eq_ok_of_toOption hn))
  obtain ⟨old, hold, hother⟩ := firstGranted_continues
  exact ⟨client, data, hok, hgranted, hpeered.replaced old hold hother⟩

/-- A client is replaced under the same names: its answer names another port than the connection
that is kept. -/
theorem kept_connection_has_other_port :
    let kit := (meets listening twoPorts
      [.getClient bareSite (jobRequest "a" "j"), .getClient bareSite (jobRequest "b" "j")]).outside
    kit.clients.map (·.closed) = [true, false] ∧
      kit.world.exchanges.map askedPort = [some (true, some 5000), some (true, some 6000)] ∧
      (peer kit).map (·.2) = some 5000 := by
  intro kit
  exact ⟨by decide +kernel, by decide +kernel, by decide +kernel⟩

end Kit

end AgentReporting
