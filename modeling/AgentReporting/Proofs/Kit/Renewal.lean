import AgentReporting.Proofs.Kit.Requests

/-! # Getting a client

What a request for a client comes to: it is refused, it shares the cached client, or it
ends that client and starts another one. Each way is told by what it makes of the kit.
-/

namespace AgentReporting

variable {σ τ α : Type}

namespace Client

/-- The other client has the same session of the same Agent, asked for under the same names. -/
structure Recalls (client other : Client) : Prop where
  session : other.session = client.session
  address : other.channel.address = client.channel.address
  settings : other.settings = client.settings
  version : other.version = client.version

/-- The other client is the same one, as far as its session and its end are concerned. -/
structure Continues (client other : Client) : Prop extends client.Recalls other where
  closed : other.closed = client.closed

theorem Recalls.refl (client : Client) : client.Recalls client := ⟨rfl, rfl, rfl, rfl⟩

theorem Continues.refl (client : Client) : client.Continues client := ⟨.refl client, rfl⟩

theorem Recalls.trans {first second third : Client} (h : first.Recalls second)
    (h' : second.Recalls third) : first.Recalls third :=
  ⟨h'.session.trans h.session, h'.address.trans h.address, h'.settings.trans h.settings,
    h'.version.trans h.version⟩

theorem Continues.trans {first second third : Client} (h : first.Continues second)
    (h' : second.Continues third) : first.Continues third :=
  ⟨h.toRecalls.trans h'.toRecalls, h'.closed.trans h.closed⟩

variable (net : Network τ) (closeSocket : Bool) (client : Client)

theorem continues_worker (worker : Option Worker) :
    client.Continues { client with worker } := ⟨⟨rfl, rfl, rfl, rfl⟩, rfl⟩

theorem settle_continues : (settle net client).Gives client.Continues := by
  unfold settle
  split
  · exact .answer (.refl client)
  · exact .next fun worker => .answer (client.continues_worker _)

theorem stopWorker_continues : (stopWorker net client).Gives client.Continues := by
  unfold stopWorker
  refine .seq (settle_continues net _) fun settled hs => ?_
  have hc : client.Continues settled := (client.continues_worker _).trans hs
  split
  · exact .answer hc
  · exact .ite (fun _ => .answer hc) fun _ =>
      .next fun _ => .next fun _ => .answer (hc.trans (settled.continues_worker _))

theorem submit_continues (report : Report) : client.Continues (client.submit report).1 := by
  unfold submit
  split
  · exact .refl client
  · split
    · exact .refl client
    · exact client.continues_worker _

theorem run_close_of_closed (h : client.closed = true) (trail : Trail τ) :
    (client.close net closeSocket).run trail = (client, trail) := by
  unfold close
  rw [if_pos h]
  rfl

theorem close_closes : (client.close net closeSocket).Gives fun ended =>
    ended.closed = true ∧ client.Recalls ended := by
  refine .ite (fun h => .answer ⟨h, .refl client⟩) fun _ => ?_
  refine .seq (stopWorker_continues net { client with closed := true }) fun ended he => ?_
  have hclosing : client.Recalls { client with closed := true } := ⟨rfl, rfl, rfl, rfl⟩
  have hclosed : ended.Recalls { ended with channel := { ended.channel with isOpen := false } } :=
    ⟨rfl, rfl, rfl, rfl⟩
  have hended := And.intro he.closed ((hclosing.trans he.toRecalls).trans hclosed)
  dsimp only
  split
  · exact .next fun _ => .next fun _ => .next fun _ => .answer hended
  · exact .next fun _ => .next fun _ => .answer hended

/-! ## A client that is started -/

structure Fits (caps : Capabilities) (client : Client) : Prop where
  isOpen : client.closed = false
  trackingId : client.trackingId = Capabilities.get caps trackingKey

variable (site : Callsite) (config : Config)

/-- Whatever capabilities are granted, the tracking id is the one that was asked for. -/
theorem sessionIn_trackingId (caps : Capabilities) (data : Value) :
    (sessionIn (τ := τ) caps data).Gives fun session =>
      session.trackingId = Capabilities.get caps trackingKey := by
  refine .next fun granted => .next fun dialect => ?_
  have hput : Capabilities.get (Entries.put granted trackingKey (Capabilities.get caps trackingKey))
      trackingKey = Capabilities.get caps trackingKey := by
    rw [Capabilities.get, Entries.get?_put, if_pos rfl, Option.getD_some]
  exact .ite (.next fun _ => .answer hput) (.next fun _ => .answer hput)

theorem startSession_fits (channel : Channel) (caps : Capabilities)
    (settings : Option ReportSettings) :
    (startSession net site channel config caps settings).Gives (Fits caps) := by
  refine .next fun _ => .next fun _ => ?_
  split
  · refine .next fun answer => .next fun data => .seq (sessionIn_trackingId caps data) ?_
    intro session hs
    exact .next fun _ => .next fun _ => .next fun _ => .answer ⟨rfl, hs⟩
  · exact .fault _

theorem start_gives {address token : String} {request : ClientRequest} {P Q : Client → Prop}
    (hs : ∀ settings, (startSession net site { address, token } config request.capabilities
      settings).Gives P) (hf : ∀ client, P client → Q (staffed config request client)) :
    (start net site config address token request).Gives Q := by
  rw [start_eq]
  exact .next fun settings => .seq (hs settings) fun client hc => .answer (hf client hc)

theorem start_fits (address token : String) (request : ClientRequest) :
    (start net site config address token request).Gives (Fits request.capabilities) := by
  refine start_gives net site config (startSession_fits net site config _ _) fun client hc => ?_
  obtain ⟨worker, hw⟩ := staffed_eq config request client
  rw [hw]
  exact ⟨hc.isOpen, hc.trackingId⟩

end Client

namespace Kit

variable (net : Network τ) {before after : Kit τ} {id : Nat}

/-! ## A client is closed -/

theorem run_updateClient (id : Nat) (f : Client → Act τ (Client × α)) (trail : Trail (Kit τ)) :
    ((updateClient id f).run trail).2.outside =
      match trail.outside.clients[id]? with
      | none => trail.outside
      | some client =>
        let done := (f client).run { trail with outside := trail.outside.world }
        { trail.outside with
          world := done.2.outside, clients := trail.outside.clients.set id done.1.1 } := by
  unfold updateClient
  rw [Act.run_bind, Act.run_getOutside]
  dsimp only
  cases trail.outside.clients[id]? with
  | none => rfl
  | some client => rfl

/-- What closing a client makes of a kit; one that is closed already stays as it is. -/
inductive Ends (closeSocket : Bool) (id : Nat) (before : Kit τ) : Kit τ → Prop where
  | idle (h : ∀ client, before.clients[id]? = some client → client.closed = true) :
      Ends closeSocket id before before
  | ended {client ended : Client} {trail : Trail τ} (hi : before.clients[id]? = some client)
      (ho : client.closed = false) (ht : trail.outside = before.world)
      (hc : ended.closed = true) (hs : client.Recalls ended) :
      Ends closeSocket id before
        { before with
          world := ((client.close net closeSocket).run trail).2.outside
          clients := before.clients.set id ended }

theorem run_closeClient (closeSocket : Bool) (id : Nat) (trail : Trail (Kit τ)) :
    Ends net closeSocket id trail.outside
      ((closeClient net closeSocket id).run trail).2.outside := by
  have h := run_updateClient id
    (fun client => do return (← client.close net closeSocket, ())) trail
  change ((closeClient net closeSocket id).run trail).2.outside = _ at h
  rw [h]
  cases hi : trail.outside.clients[id]? with
  | none => exact .idle fun client hc => by rw [hi] at hc; cases hc
  | some client =>
    cases ho : client.closed with
    | true =>
      have hset : trail.outside.clients.set id client = trail.outside.clients := by
        obtain ⟨hlt, rfl⟩ := List.getElem?_eq_some_iff.mp hi
        exact List.set_getElem_self hlt
      simp only [Act.run_bind, Act.run_pure, client.run_close_of_closed net closeSocket ho, hset]
      refine .idle fun other hother => ?_
      rw [hi] at hother
      cases hother
      exact ho
    | false =>
      obtain ⟨hc, hs⟩ := client.close_closes net closeSocket
        { trail with outside := trail.outside.world }
      exact .ended hi ho rfl hc hs

section Ends

variable {net} {closeSocket : Bool} (h : Ends net closeSocket id before after)

include h

theorem Ends.cached : after.cached = before.cached := by
  cases h <;> rfl

theorem Ends.registry : after.registry = before.registry := by
  cases h <;> rfl

theorem Ends.drivers : after.drivers = before.drivers := by
  cases h <;> rfl

theorem Ends.length : after.clients.length = before.clients.length := by
  cases h with
  | idle => rfl
  | ended => exact List.length_set

theorem Ends.ends {client : Client} (hi : before.clients[id]? = some client) :
    ∃ ended, after.clients[id]? = some ended ∧ ended.closed = true := by
  cases h with
  | idle h => exact ⟨client, hi, h client hi⟩
  | @ended _ ended _ _ _ _ hc _ =>
    exact ⟨ended, List.getElem?_set_self (List.getElem?_eq_some_iff.mp hi).1, hc⟩

/-- A client that is open afterwards is another one, and was open before. -/
theorem Ends.open_before {other : Nat} {client : Client}
    (hi : after.clients[other]? = some client) (ho : client.closed = false) :
    other ≠ id ∧ before.clients[other]? = some client := by
  cases h with
  | idle h =>
    refine ⟨?_, hi⟩
    rintro rfl
    rw [h client hi] at ho
    cases ho
  | ended hi' ho' ht hc hs =>
    rw [List.getElem?_set] at hi
    split at hi
    · split at hi
      · cases hi
        rw [hc] at ho
        cases ho
      · cases hi
    · exact ⟨Ne.symm ‹_›, hi⟩

end Ends

/-! ## A client is got -/

/-- How the cached client makes way for another one. -/
inductive Retires (site : Callsite) (request : ClientRequest) (before : Kit τ) : Kit τ → Prop where
  | nobody (h : before.cached.bind (before.clients[·]?) = none) :
      Retires site request before before
  | client {id : Nat} {client : Client} {keep : Bool} {trail : Trail (Kit τ)} {after : Kit τ}
      (hc : before.cached = some id) (hi : before.clients[id]? = some client)
      (hk : ((keepsSocket site client request).result.run trail).1 = .ok keep)
      (h : Ends net (!keep) id { before with registry := before.registry.removeClient } after) :
      Retires site request before after

theorem Retires.length {site : Callsite} {request : ClientRequest}
    (h : Retires net site request before after) : after.clients.length = before.clients.length := by
  cases h with
  | nobody => rfl
  | client hc hi hk h => exact h.length

theorem run_retireCached (site : Callsite) (request : ClientRequest) (trail : Trail (Kit τ)) :
    let done := (retireCached net site request).result.run trail
    (∃ fault, done.1 = .error fault ∧ done.2.outside = trail.outside ∧ ∃ id client,
      trail.outside.cached = some id ∧ trail.outside.clients[id]? = some client ∧
      ((keepsSocket site client request).result.run trail).1 = .error fault) ∨
    done.1 = .ok () ∧ Retires net site request trail.outside done.2.outside := by
  simp only [retireCached, Attempt.run_bind, Attempt.run_lift, Act.run_getOutside]
  cases hc : trail.outside.cached with
  | none => exact .inr ⟨rfl, .nobody (by rw [hc]; rfl)⟩
  | some id =>
    simp only
    cases hi : trail.outside.clients[id]? with
    | none => exact .inr ⟨rfl, .nobody (by rw [hc]; exact hi)⟩
    | some client =>
      simp only [Attempt.run_bind]
      have hkeeps := (keepsSocket_quiet site client request).keeps.outside trail
      cases hk : (keepsSocket site client request).result.run trail with
      | mk answer noted =>
        rw [hk] at hkeeps
        cases answer with
        | error fault => exact .inl ⟨fault, rfl, hkeeps, id, client, rfl, hi, by rw [hk]⟩
        | ok keep =>
          refine .inr ⟨rfl, .client hc hi (by rw [hk]) ?_⟩
          have hends := run_closeClient net (!keep) id
            { noted with outside := { noted.outside with
              registry := noted.outside.registry.removeClient } }
          rw [← hkeeps]
          exact hends

inductive Renews (site : Callsite) (config : Config) (address token : String)
    (request : ClientRequest) (before : Kit τ) : Except Fault (Nat × Client) → Kit τ → Prop where
  | unnamed {id : Nat} {client : Client} {fault : Fault} {trail : Trail (Kit τ)}
      (hc : before.cached = some id) (hi : before.clients[id]? = some client)
      (hk : ((keepsSocket site client request).result.run trail).1 = .error fault) :
      Renews site config address token request before (.error fault) before
  | failed {retired : Kit τ} {fault : Fault} {trail : Trail τ}
      (hr : Retires net site request before retired) (ht : trail.outside = retired.world)
      (hs : ((Client.start net site config address token request).result.run trail).1 =
        .error fault) :
      Renews site config address token request before (.error fault)
        { retired with
          world := ((Client.start net site config address token request).result.run
            trail).2.outside }
  | started {retired : Kit τ} {client : Client} {trail : Trail τ}
      (hr : Retires net site request before retired) (ht : trail.outside = retired.world)
      (hs : ((Client.start net site config address token request).result.run trail).1 =
        .ok client) :
      Renews site config address token request before (.ok (retired.clients.length, client))
        { retired with
          world := ((Client.start net site config address token request).result.run
            trail).2.outside
          clients := retired.clients ++ [client]
          cached := some retired.clients.length
          registry := retired.registry.setClient (.closeClient retired.clients.length) }

theorem run_attemptOnWorld (attempt : Attempt τ α) (trail : Trail (Kit τ)) :
    (attemptOnWorld attempt).result.run trail =
      let done := attempt.result.run { trail with outside := trail.outside.world }
      (done.1, { done.2 with outside := { trail.outside with world := done.2.outside } }) := rfl

theorem run_renewal (site : Callsite) (config : Config) (address token : String)
    (request : ClientRequest) (trail : Trail (Kit τ)) :
    let done := (do
      retireCached net site request
      let client ← attemptOnWorld (Client.start net site config address token request)
      return (← Attempt.lift (install client), client) : Attempt (Kit τ) (Nat × Client)).result.run
        trail
    Renews net site config address token request trail.outside done.1 done.2.outside := by
  have hretired := run_retireCached net site request trail
  simp only [Attempt.run_bind] at hretired ⊢
  generalize (retireCached net site request).result.run trail = done at hretired
  obtain ⟨answer, retired⟩ := done
  rcases hretired with ⟨fault, rfl, ho, id, client, hc, hi, hk⟩ | ⟨rfl, hr⟩
  · rw [← ho] at hc hi ⊢
    exact .unnamed hc hi hk
  simp only [run_attemptOnWorld]
  generalize hs : (Client.start net site config address token request).result.run
    { retired with outside := retired.outside.world } = started
  obtain ⟨answer, started⟩ := started
  cases answer with
  | error fault =>
    have hfailed := Renews.failed hr rfl (congrArg Prod.fst hs)
    rw [hs] at hfailed
    exact hfailed
  | ok client =>
    have hstarted := Renews.started hr rfl (congrArg Prod.fst hs)
    rw [hs] at hstarted
    exact hstarted

end Kit

/-! ## A request -/

theorem Address.resolve_default : Address.resolve {} none = .ok defaultAgentUrl :=
  eq_ok_of_toOption (by decide +kernel)

namespace ClientRequest

variable (request : ClientRequest) (site : Callsite)

/-- The configuration that counts for a request: its own, or else that of the environment. -/
def configuration (trail : Trail σ) : Config × Trail σ :=
  match request.config with
  | some config => (config, trail)
  | none => (Config.ofEnvironment site.env).run trail

def target (config : Config) : Except Fault (String × String) := do
  let address ← Address.resolve config request.address
  return (address, ← config.resolveToken request.token)

def tracked (trail : Trail σ) : Capabilities :=
  (request.capabilities.track.run (request.configuration site trail).2).1

variable {request}

theorem target_eq_ok_iff {config : Config} {address token : String} :
    request.target config = .ok (address, token) ↔
      Address.resolve config request.address = .ok address ∧
        config.resolveToken request.token = .ok token := by
  unfold target
  cases Address.resolve config request.address with
  | error fault => exact iff_of_false (fun h => nomatch h) fun h => nomatch h.1
  | ok resolved =>
    cases config.resolveToken request.token with
    | error fault => exact iff_of_false (fun h => nomatch h) fun h => nomatch h.2
    | ok given => simp [bind, Except.bind, pure, Except.pure]

variable (request)

theorem configuration_outside (trail : Trail σ) :
    (request.configuration site trail).2.outside = trail.outside := by
  unfold configuration
  split
  · rfl
  · exact Config.ofEnvironment_outside site.env trail

theorem noted_outside (trail : Trail σ) :
    (request.capabilities.track.run (request.configuration site trail).2).2.outside =
      trail.outside :=
  ((Capabilities.track_keeps _).outside _).trans (request.configuration_outside site trail)

end ClientRequest

namespace Kit

/-- What comes of a request for a client. -/
inductive Serves (net : Network τ) (site : Callsite) (request : ClientRequest)
    (before : Trail (Kit τ)) : Except Fault (Nat × Client) → Kit τ → Prop where
  | refused {fault : Fault}
      (h : request.target (request.configuration site before).1 = .error fault) :
      Serves net site request before (.error fault) before.outside
  | shared {id : Nat} {client : Client}
      (h : shared? before.outside (request.tracked site before) = some (id, client)) :
      Serves net site request before (.ok (id, client)) before.outside
  | renewed {address token : String} {answer : Except Fault (Nat × Client)} {after : Kit τ}
      (ht : request.target (request.configuration site before).1 = .ok (address, token))
      (hn : shared? before.outside (request.tracked site before) = none)
      (h : Renews net site (request.configuration site before).1 address token
        { request with capabilities := request.tracked site before } before.outside answer after) :
      Serves net site request before answer after

variable (net : Network τ) (site : Callsite) (request : ClientRequest)

/-- What is left to do for a request once its configuration is known. -/
def getClientUnder (config : Config) : Attempt (Kit τ) (Nat × Client) := do
  let address ← Attempt.ofExcept (Address.resolve config request.address)
  let token ← Attempt.ofExcept (config.resolveToken request.token)
  let caps ← Attempt.lift request.capabilities.track
  match shared? (← Attempt.lift Act.getOutside) caps with
  | some shared => return shared
  | none =>
    retireCached net site { request with capabilities := caps }
    let client ← attemptOnWorld
      (Client.start net site config address token { request with capabilities := caps })
    return (← Attempt.lift (install client), client)

theorem run_getClient (trail : Trail (Kit τ)) :
    (getClient net site request).result.run trail =
      (getClientUnder net site request (request.configuration site trail).1).result.run
        (request.configuration site trail).2 := by
  unfold getClient
  split
  · rename_i config hc
    have hconfig : request.configuration site trail = (config, trail) := by
      rw [ClientRequest.configuration, hc]
    rw [hconfig]
    rfl
  · rename_i hc
    have hconfig : request.configuration site trail =
        (Config.ofEnvironment site.env).run trail := by
      rw [ClientRequest.configuration, hc]
    rw [hconfig]
    change (Attempt.lift (Config.ofEnvironment site.env) >>=
      getClientUnder net site request).result.run trail = _
    rw [Attempt.run_bind, Attempt.run_lift]

theorem getClient_serves (trail : Trail (Kit τ)) :
    let done := (getClient net site request).result.run trail
    Serves net site request trail done.1 done.2.outside := by
  have hnoted := request.configuration_outside site trail
  have htracked := request.noted_outside site trail
  dsimp only
  rw [run_getClient]
  simp only [getClientUnder, Attempt.run_bind, Attempt.run_ofExcept]
  cases ha : Address.resolve (request.configuration site trail).1 request.address with
  | error fault =>
    have hrefused : request.target (request.configuration site trail).1 = .error fault := by
      rw [ClientRequest.target, ha]
      rfl
    rw [hnoted]
    exact .refused hrefused
  | ok address =>
    cases hk : (request.configuration site trail).1.resolveToken request.token with
    | error fault =>
      have hrefused : request.target (request.configuration site trail).1 = .error fault := by
        rw [ClientRequest.target, ha, hk]
        rfl
      rw [hnoted]
      exact .refused hrefused
    | ok token =>
      have htarget : request.target (request.configuration site trail).1 =
          .ok (address, token) := ClientRequest.target_eq_ok_iff.mpr ⟨ha, hk⟩
      simp only [Attempt.run_lift, Act.run_getOutside, htracked]
      cases hs : shared? trail.outside (request.tracked site trail) with
      | some shared =>
        unfold ClientRequest.tracked at hs
        rw [hs, Attempt.run_pure, htracked]
        exact .shared hs
      | none =>
        have hrenewal := run_renewal net site (request.configuration site trail).1 address token
          { request with capabilities := request.tracked site trail }
          (request.capabilities.track.run (request.configuration site trail).2).2
        rw [htracked] at hrenewal
        have hserves := Serves.renewed htarget hs hrenewal
        unfold ClientRequest.tracked at hs hserves
        rw [hs]
        exact hserves

theorem shared?_eq_some {kit : Kit τ} {caps : Capabilities} {id : Nat} {client : Client} :
    shared? kit caps = some (id, client) ↔
      kit.cached = some id ∧ kit.clients[id]? = some client ∧ client.closed = false ∧
        Value.same client.trackingId (Capabilities.get caps trackingKey) = true := by
  unfold shared?
  cases hc : kit.cached with
  | none => simp
  | some other =>
    cases hi : kit.clients[other]? with
    | none =>
      simp only [Option.bind_eq_bind, Option.bind_some, hi, Option.bind_none, reduceCtorEq,
        false_iff]
      rintro ⟨hc', hi', -⟩
      cases hc'
      rw [hi] at hi'
      cases hi'
    | some client' =>
      simp only [Option.bind_eq_bind, Option.bind_some, hi, Option.ite_none_right_eq_some,
        Bool.and_eq_true, Bool.not_eq_true', Option.some.injEq, Prod.mk.injEq]
      constructor
      · rintro ⟨⟨ho, hsame⟩, rfl, rfl⟩
        exact ⟨rfl, hi, ho, hsame⟩
      · rintro ⟨rfl, hi', ho, hsame⟩
        rw [hi] at hi'
        cases hi'
        exact ⟨⟨ho, hsame⟩, rfl, rfl⟩

/-- A client that is got is open. -/
theorem Serves.isOpen {net : Network τ} {site : Callsite} {request : ClientRequest}
    {before : Trail (Kit τ)} {after : Kit τ} {id : Nat} {client : Client}
    (h : Serves net site request before (.ok (id, client)) after) :
    after.clients[id]? = some client ∧ client.closed = false := by
  cases h with
  | shared h =>
    obtain ⟨-, hi, ho, -⟩ := shared?_eq_some.mp h
    exact ⟨hi, ho⟩
  | renewed _ _ h =>
    cases h with
    | started _ _ hstart =>
      exact ⟨List.getElem?_concat_length, (Client.start_fits net site _ _ _ _ _ _ hstart).isOpen⟩

end Kit

end AgentReporting
