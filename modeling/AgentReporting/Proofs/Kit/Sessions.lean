import AgentReporting.Proofs.Kit.Peering

/-! # The sessions of clients

A client that is started asks for its session with the last request that is sent for it.
Whatever is demanded afterwards, the client keeps the names that this request carried and
the version that the Agent told, so the history tells of every client how it was begun.
-/

namespace AgentReporting

variable {σ τ α ρ : Type}

/-! ## A session is asked for -/

namespace Client

/-- The exchanges end with the request for the session of a client, which was sent with this
data and granted with that. -/
def Asked (client : Client) (exchanges : List Exchange) (data granted : Value) : Prop :=
  ∃ earlier body answer,
    exchanges = earlier ++ [⟨sessionCall client.channel body, .ok answer⟩] ∧
      Json.encode? data = some body ∧ answer.body? = some granted

section

variable {net : Network σ} {view : σ → ρ}
  (hopen : ∀ host port, (net.openSocket host port).Keeps view)

include hopen

theorem openSocket_keeps (address : String) (port : Value) :
    (openSocket net address port).Keeps view :=
  .ite (.answer _) (.seq (.ofExcept _) fun _ => hopen _ _)

theorem answer_keeps (channel : Channel) (caps : Capabilities) (answer : HttpAnswer)
    (client : Value → Session → Client) : Attempt.Keeps view (do
      let data ← answerFields answer
      let session ← sessionIn caps data
      Attempt.info s!"Session [{session.id.display}] initialized"
      showWarnings (data.get "warnings")
      openSocket net channel.address (data.get "devSocketPort")
      return client data session) := by
  refine .seq (answerFields_keeps _) fun data => .seq (sessionIn_keeps _ _) fun session => ?_
  refine .seq (.lift (.write _)) fun _ => .seq (showWarnings_keeps _) fun _ => ?_
  exact .seq (openSocket_keeps hopen _ _) fun _ => .answer _

end

theorem answer_gives (net : Network σ) (channel : Channel) (caps : Capabilities)
    (answer : HttpAnswer) (client : Value → Session → Client) : Attempt.Gives (do
      let data ← answerFields answer
      let session ← sessionIn caps data
      Attempt.info s!"Session [{session.id.display}] initialized"
      showWarnings (data.get "warnings")
      openSocket net channel.address (data.get "devSocketPort")
      return client data session) fun started =>
        ∃ data session, answer.body? = some data ∧ started = client data session := by
  refine .seq (P := fun data => answer.body? = some data)
    (fun trail data h => (answerFields_eq_ok_iff.mp h).1) fun data hd => ?_
  exact .next fun session => .next fun _ => .next fun _ => .next fun _ =>
    .answer ⟨data, session, hd, rfl⟩

/-- A client that was started has asked for its session, and keeps what it asked for and what it
was told. -/
def Started (site : Callsite) (caps : Capabilities) (client : Client) (exchanges : List Exchange) :
    Prop :=
  ∃ granted, client.Asked exchanges (sessionRequest site caps client.settings) granted ∧
    client.version = granted.get "version"

theorem startSession_starts (net : Network τ) (site : Callsite) {channel : Channel}
    (ho : channel.isOpen = true) (config : Config) (caps : Capabilities)
    (settings : Option ReportSettings) :
    (startSession net.traced site channel config caps settings).Leads fun _ client after =>
      client.Started site caps after.exchanges := by
  let R (_ : Unit) (client : Client) (after : Traced τ) : Prop :=
    client.Started site caps after.exchanges
  refine .next (fun _ => ()) (R := R) (fun _ => rfl) fun _ => ?_
  refine .next (fun _ => ()) (R := R) (fun _ => rfl) fun _ => ?_
  split
  · rename_i body hb
    intro trail client h
    obtain ⟨answer, ha, h⟩ := Attempt.bind_eq_ok_iff.mp h
    obtain ⟨granted, session, hg, rfl⟩ := answer_gives net.traced channel caps answer _ _ _ h
    have hopen (host : String) (port : Int) :
        (net.traced.openSocket host port).Keeps Traced.exchanges := fun _ => rfl
    have hkeeps := answer_keeps hopen channel caps answer
    rw [Attempt.run_bind_of_ok ha]
    refine ⟨granted, ⟨trail.outside.exchanges, body, answer, ?_, hb, hg⟩, rfl⟩
    exact (hkeeps _ _).trans (requestSession_leads net ho trail answer ha)
  · exact .fault _

theorem start_starts (net : Network τ) (site : Callsite) (config : Config)
    (address token : String) (request : ClientRequest) :
    (start net.traced site config address token request).Leads fun _ client after =>
      client.Started site request.capabilities after.exchanges :=
  start_leads_of_session (fun _ => ())
    (R := fun _ client (after : Traced τ) =>
      client.Started site request.capabilities after.exchanges)
    (startSession_starts net site rfl config _) fun _ _ _ _ h => h

/-- The settings that the session of a request is started under: the given ones, completed at
the call site, or none if nothing is to be reported. -/
def Seeks (site : Callsite) (request : ClientRequest) : Option ReportSettings → Prop
  | none => request.disableReports = true
  | some settings =>
    request.disableReports = false ∧ Completes site request.settings settings

theorem settingsFor_seeks (site : Callsite) (token : String) (request : ClientRequest) :
    (settingsFor (σ := σ) site token request).Gives (Seeks site request) := by
  have hseeks : (if request.disableReports then pure none
      else some <$> completeSettings (σ := σ) site request.settings).Gives
        (Seeks site request) := by
    cases hr : request.disableReports with
    | true => exact .answer hr
    | false =>
      refine .seq (P := Completes site request.settings) ?_ fun settings h => .answer ⟨hr, h⟩
      exact fun trail settings h => (completes_iff trail).mp h
  exact .ite (.next fun _ => hseeks) hseeks

theorem startSession_gives_settings (net : Network σ) (site : Callsite) (channel : Channel)
    (config : Config) (caps : Capabilities) (settings : Option ReportSettings) :
    (startSession net site channel config caps settings).Gives fun client =>
      client.settings = settings := by
  refine .next fun _ => .next fun _ => ?_
  split
  · exact .next fun _ => .next fun _ => .next fun _ => .next fun _ => .next fun _ =>
      .next fun _ => .answer rfl
  · exact .fault _

/-- A client keeps the settings that its session was started under. -/
theorem start_seeks (net : Network σ) (site : Callsite) (config : Config)
    (address token : String) (request : ClientRequest) :
    (start net site config address token request).Gives fun client =>
      Seeks site request client.settings := by
  rw [start_eq]
  refine .seq (settingsFor_seeks site token request) fun settings hs => ?_
  refine .seq (startSession_gives_settings net site _ config _ settings) fun client hc => ?_
  obtain ⟨worker, hworker⟩ := staffed_eq config request client
  rw [hworker]
  exact .answer (hc ▸ hs)

end Client

namespace Kit

/-! ## Clients are kept -/

def Inherits (before after : Kit τ) : Prop :=
  ∀ (id : Nat) (client : Client), after.clients[id]? = some client →
    ∃ old : Client, before.clients[id]? = some old ∧ old.Recalls client

variable {net : Network τ} {before after : Kit τ}

theorem Inherits.refl (kit : Kit τ) : Inherits kit kit :=
  fun _ client h => ⟨client, h, .refl client⟩

theorem Persists.inherits (h : Persists before after) : Inherits before after := by
  intro id client hi
  obtain ⟨old, ho, hc⟩ := h.clients id client hi
  exact ⟨old, ho, hc.toRecalls⟩

theorem Ends.inherits {closeSocket : Bool} {id : Nat} (h : Ends net closeSocket id before after) :
    Inherits before after := by
  cases h with
  | idle => exact .refl before
  | @ended client ended _ hi _ _ _ hs =>
    intro other client' ho
    rw [List.getElem?_set] at ho
    split at ho
    · rename_i heq
      subst heq
      split at ho
      · cases ho
        exact ⟨client, hi, hs⟩
      · cases ho
    · exact ⟨client', ho, .refl client'⟩

theorem Clears.inherits (h : Clears net before after) : Inherits before after := by
  cases h with
  | nobody => exact .refl before
  | client _ h => exact h.inherits

theorem ShutsDown.inherits (h : ShutsDown net before after) : Inherits before after := by
  cases h with
  | nobody => exact .refl before
  | client _ h => exact h.inherits

theorem Retires.inherits {site : Callsite} {request : ClientRequest}
    (h : Retires net site request before after) : Inherits before after := by
  cases h with
  | nobody => exact .refl before
  | client _ _ _ h => exact h.inherits

/-! ## Every history -/

/-- The data of the request for the session that a client is to be started with. -/
def Plans (site : Callsite) (request : ClientRequest) (trail : Trail σ) (wanted : Value) : Prop :=
  ∃ target settings, request.target (request.configuration site trail).1 = .ok target ∧
    Client.Seeks site request settings ∧
      wanted = Client.sessionRequest site (request.tracked site trail) settings

/-- The client of this number was got new with one of the demands: its session was asked for with
the data that this demand called for, and granted with that. -/
inductive Begun (net : Network (Traced τ)) (start : Trail (Kit (Traced τ))) :
    List Demand → Nat → Value → Value → Prop where
  | intro {earlier later : List Demand} {site : Callsite} {request : ClientRequest} {id : Nat}
      {client : Client} {data granted : Value}
      (hn : (meets net start earlier).outside.clients[id]? = none)
      (hg : ((getClient net site request).result.run (meets net start earlier)).1 =
        .ok (id, client))
      (hp : Plans site request (meets net start earlier) data)
      (ha : client.Asked ((getClient net site request).result.run
        (meets net start earlier)).2.outside.world.exchanges data granted) :
      Begun net start (earlier ++ .getClient site request :: later) id data granted

/-- A client and the history that it comes from: its session was asked for under its names, and
the Agent told its version. -/
def Begins (net : Network (Traced τ)) (start : Trail (Kit (Traced τ))) (demands : List Demand)
    (id : Nat) (client : Client) : Prop :=
  ∃ site caps granted,
    Begun net start demands id (Client.sessionRequest site caps client.settings) granted ∧
      client.version = granted.get "version"

theorem Begun.append {net : Network (Traced τ)} {start : Trail (Kit (Traced τ))}
    {demands : List Demand} {id : Nat} {data granted : Value}
    (h : Begun net start demands id data granted) (more : List Demand) :
    Begun net start (demands ++ more) id data granted := by
  cases h with
  | intro hn hg hp ha =>
    rw [List.append_assoc]
    exact .intro hn hg hp ha

/-- A client that a request leaves was there before, or it was started for the request. -/
theorem Serves.inherits_or_starts {net : Network τ} {site : Callsite} {request : ClientRequest}
    {trail : Trail (Kit (Traced τ))} {answer : Except Fault (Nat × Client)}
    {after : Kit (Traced τ)} (h : Serves net.traced site request trail answer after) {id : Nat}
    {client : Client} (hi : after.clients[id]? = some client) :
    (∃ old, trail.outside.clients[id]? = some old ∧ old.Recalls client) ∨
      trail.outside.clients[id]? = none ∧ answer = .ok (id, client) ∧ ∃ caps,
        Plans site request trail (Client.sessionRequest site caps client.settings) ∧
          client.Started site caps after.world.exchanges := by
  cases h with
  | refused => exact .inl ⟨client, hi, .refl client⟩
  | shared => exact .inl ⟨client, hi, .refl client⟩
  | renewed htarget _ h =>
    cases h with
    | unnamed => exact .inl ⟨client, hi, .refl client⟩
    | failed hr => exact .inl (hr.inherits id client hi)
    | @started retired started world hr ht hstart =>
      rw [List.getElem?_append] at hi
      split at hi
      · exact .inl (hr.inherits id client hi)
      · rename_i hlt
        have hlen := (List.getElem?_eq_some_iff.mp hi).1
        rw [List.length_singleton] at hlen
        obtain rfl : id = retired.clients.length := by omega
        obtain rfl : client = started := List.mem_singleton.mp (List.mem_of_getElem? hi)
        have hplans := Client.start_seeks net.traced site _ _ _ _ world client hstart
        refine .inr ⟨?_, rfl, _, ⟨_, _, htarget, hplans, rfl⟩,
          Client.start_starts net site _ _ _ _ world client hstart⟩
        exact List.getElem?_eq_none (by rw [hr.length])

theorem begins_meet {net : Network τ} {start : Trail (Kit (Traced τ))} {demands : List Demand}
    (hs : Single (meets net.traced start demands).outside)
    (hb : ∀ (id : Nat) (client : Client),
      (meets net.traced start demands).outside.clients[id]? = some client →
        Begins net.traced start demands id client) (demand : Demand) (id : Nat) (client : Client)
    (hi : (meets net.traced start (demands ++ [demand])).outside.clients[id]? = some client) :
    Begins net.traced start (demands ++ [demand]) id client := by
  have hinherits (h : ∃ old, (meets net.traced start demands).outside.clients[id]? = some old ∧
      old.Recalls client) : Begins net.traced start (demands ++ [demand]) id client := by
    obtain ⟨old, ho, hc⟩ := h
    obtain ⟨site, caps, granted, hbegun, hv⟩ := hb id old ho
    rw [← hc.settings] at hbegun
    exact ⟨site, caps, granted, hbegun.append _, hc.version.trans hv⟩
  rw [meets_append, meets_cons, meets_nil] at hi
  generalize htrail : meets net.traced start demands = trail at hs hi hinherits
  cases demand with
  | getClient site request =>
    have hserves := getClient_serves net.traced site request trail
    rcases hserves.inherits_or_starts hi with h | ⟨hn, hg, caps, hp, granted, ha, hv⟩
    · exact hinherits h
    · subst htrail
      exact ⟨site, caps, granted, .intro hn hg hp ha, hv⟩
  | close other => exact hinherits ((run_closeClient _ true other trail).inherits id client hi)
  | clear => exact hinherits ((run_clear _ trail).inherits id client hi)
  | shutdown site => exact hinherits ((run_shutdownAll _ site trail hs).inherits id client hi)
  | report other content =>
    exact hinherits ((report_persists other content trail).inherits id client hi)
  | hold held other => exact hinherits ((hold_persists held other trail).inherits id client hi)
  | settle => exact hinherits ((settle_persists _ trail).inherits id client hi)

theorem begins_meets (net : Network τ) (world : τ) (demands : List Demand) (id : Nat)
    (client : Client) :
    let start := opening (τ := Traced τ) { world }
    (meets net.traced start demands).outside.clients[id]? = some client →
      Begins net.traced start demands id client := by
  intro start hi
  induction demands using List.reverseRecOn generalizing id client with
  | nil => cases hi
  | append_singleton earlier demand ih =>
    exact begins_meet (single_meets _ _ _ (single_opening _)) ih demand id client hi

end Kit

end AgentReporting
