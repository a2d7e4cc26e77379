import AgentReporting.Proofs.Kit.Demands

/-! # Which client a request gets

A request gets the cached client without a request to the Agent exactly if that client is
open under the tracking id that is asked for. Any other client it gets was started under
this id, and if it gets none, no client is open under it.
-/

namespace AgentReporting

variable {τ : Type}

/-- A world, and the HTTP requests that were sent to it. -/
structure Tapped (τ : Type) where
  world : τ
  requests : List HttpRequest := []

namespace Tapped

def onWorld {α : Type} (act : StateM τ α) : StateM (Tapped τ) α := fun tapped =>
  let (a, world) := act.run tapped.world
  (a, { tapped with world })

def within {α : Type} (act : Act τ α) : Act (Tapped τ) α :=
  Act.within Tapped.world (fun world tapped => { tapped with world }) act

end Tapped

def Network.tapped (net : Network τ) : Network (Tapped τ) where
  http request := do
    modify fun tapped => { tapped with requests := tapped.requests ++ [request] }
    Tapped.onWorld (net.http request)
  automate command := Tapped.onWorld (net.automate command)
  openSocket host port := Attempt.ofResult (Tapped.within (net.openSocket host port).result)
  closeSocket := Tapped.within net.closeSocket

/-- The tracking id that is asked for; a fresh one where the request has none. -/
def ClientRequest.trackingId {σ : Type} (request : ClientRequest) (site : Callsite)
    (trail : Trail σ) : Value :=
  Capabilities.get (request.tracked site trail) trackingKey

namespace Kit

/-- The answer to a request, and the kit after it, against the tracking id that was wanted. -/
structure Identified (wanted : Value) (before : Kit (Tapped τ))
    (answer : Except Fault (Nat × Client)) (after : Kit (Tapped τ)) : Prop where
  /-- The cached client is the answer, without a request, if and only if it is open under
  the wanted id. -/
  shares : (∃ id client, before.cached = some id ∧ answer = .ok (id, client) ∧
      after.world.requests = before.world.requests) ↔
    ∃ id client, before.cached = some id ∧ before.clients[id]? = some client ∧
      client.closed = false ∧ Value.same client.trackingId wanted = true
  /-- A client that is the answer is open under the wanted id. -/
  carries : ∀ (id : Nat) (client : Client), answer = .ok (id, client) →
    after.clients[id]? = some client ∧ client.closed = false ∧
      (client.trackingId = wanted ∨ Value.same client.trackingId wanted = true)
  /-- After a failure no client is open under the wanted id. -/
  fails : ∀ fault, answer = .error fault → ∀ (id : Nat) (client : Client),
    after.clients[id]? = some client → client.closed = false →
      Value.same client.trackingId wanted = false

variable {net : Network (Tapped τ)} {site : Callsite} {request : ClientRequest}
  {trail : Trail (Kit (Tapped τ))} {answer : Except Fault (Nat × Client)}
  {after : Kit (Tapped τ)}

theorem not_same_of_not_shared {kit : Kit τ} {caps : Capabilities} (hn : shared? kit caps = none)
    {id : Nat} {client : Client} (hc : kit.cached = some id)
    (hi : kit.clients[id]? = some client) (ho : client.closed = false) :
    Value.same client.trackingId (Capabilities.get caps trackingKey) = false := by
  by_contra hsame
  have hshared := shared?_eq_some.mpr ⟨hc, hi, ho, Bool.not_eq_false _ ▸ hsame⟩
  rw [hn] at hshared
  cases hshared

theorem Single.identified (hs : Single trail.outside) {address token : String}
    (ht : request.target (request.configuration site trail).1 = .ok (address, token))
    (h : Serves net site request trail answer after) :
    Identified (request.trackingId site trail) trail.outside answer after := by
  cases h with
  | refused hr =>
    rw [ht] at hr
    cases hr
  | @shared id client h =>
    obtain ⟨hc, hi, ho, hsame⟩ := shared?_eq_some.mp h
    refine ⟨?_, ?_, fun _ he => nomatch he⟩
    · exact ⟨fun _ => ⟨id, client, hc, hi, ho, hsame⟩, fun _ => ⟨id, client, hc, rfl, rfl⟩⟩
    · rintro _ _ ⟨⟩
      exact ⟨hi, ho, .inr hsame⟩
  | renewed _ hn h =>
    have hother : ¬ ∃ id client, trail.outside.cached = some id ∧
        trail.outside.clients[id]? = some client ∧ client.closed = false ∧
          Value.same client.trackingId (request.trackingId site trail) = true := by
      rintro ⟨id, client, hc, hi, ho, hsame⟩
      rw [ClientRequest.trackingId, not_same_of_not_shared hn hc hi ho] at hsame
      cases hsame
    cases h with
    | unnamed =>
      refine ⟨iff_of_false (fun ⟨_, _, _, he, _⟩ => nomatch he) hother, ?_, ?_⟩
      · exact fun _ _ he => nomatch he
      · intro _ _ id client hi ho
        exact not_same_of_not_shared hn (hs.current id client hi ho).1 hi ho
    | failed hr =>
      refine ⟨iff_of_false (fun ⟨_, _, _, he, _⟩ => nomatch he) hother, ?_, ?_⟩
      · exact fun _ _ he => nomatch he
      · intro _ _ id client hi ho
        exact ((hs.retires hr).2.not_open hi ho).elim
    | @started retired client world hr _ hstart =>
      have hfits := Client.start_fits net site _ _ _ _ world client hstart
      refine ⟨iff_of_false ?_ hother, ?_, fun _ he => nomatch he⟩
      · rintro ⟨id, client, hc, ⟨⟩, -⟩
        exact absurd (hs.known _ hc) (by rw [hr.length]; exact Nat.lt_irrefl _)
      · rintro _ _ ⟨⟩
        exact ⟨List.getElem?_concat_length, hfits.isOpen, .inl hfits.trackingId⟩

/-- At most one client is open: the cached one, which the hook of the registry closes. A
request with an address and a token that count gets it if and only if it is open under the
tracking id that is asked for. -/
theorem clients_identified (net : Network τ) (world : τ) (demands : List Demand)
    (site : Callsite) (request : ClientRequest) :
    let trail := meets net.tapped (opening { world }) demands
    (∀ (id other : Nat) (client client' : Client), trail.outside.clients[id]? = some client →
      trail.outside.clients[other]? = some client' → client.closed = false →
        client'.closed = false → id = other) ∧
    (∀ (id : Nat) (client : Client), trail.outside.clients[id]? = some client →
      client.closed = false →
        trail.outside.cached = some id ∧
          trail.outside.registry.client = some (.closeClient id)) ∧
    ∀ address token, request.target (request.configuration site trail).1 = .ok (address, token) →
      let done := (getClient net.tapped site request).result.run trail
      Identified (request.trackingId site trail) trail.outside done.1 done.2.outside := by
  intro trail
  have hs : Single trail.outside := single_meets net.tapped demands _ (single_opening _)
  refine ⟨?_, hs.current, ?_⟩
  · intro id other client client' hi hi' ho ho'
    have hc := (hs.current id client hi ho).1
    rw [(hs.current other client' hi' ho').1] at hc
    exact (Option.some.inj hc).symm
  · intro address token ht
    exact hs.identified ht (getClient_serves net.tapped site request trail)

def granting : Network Unit where
  http _ := return .ok ⟨200, "\x7b\"capabilities\": \x7b\x7d\x7d"⟩
  automate _ := return .ok .null
  openSocket _ _ := return ()
  closeSocket := return ()

/-- A session that was started is asked for again, and then one under another id. -/
theorem open_client_identified :
    let site : Callsite := { directory := { absolute := true, parts := [] } }
    let request (id : String) : ClientRequest :=
      { capabilities := [(trackingKey, .str id)], token := some "t", disableReports := true
        config := some {} }
    let trail := meets granting.tapped (opening { world := () }) [.getClient site (request "a")]
    trail.outside.clients.map (·.closed) = [false] ∧ ∀ id ∈ ["a", "b"],
      let done := (getClient granting.tapped site (request id)).result.run trail
      Identified (.str id) trail.outside done.1 done.2.outside := by
  intro site request trail
  refine ⟨by decide +kernel, ?_⟩
  intro id hid
  have ht : (request id).target ((request id).configuration site trail).1 =
      .ok ("http://localhost:8585", "t") :=
    ClientRequest.target_eq_ok_iff.mpr ⟨Address.resolve_default, rfl⟩
  have hwanted : (request id).trackingId site trail = .str id := by
    simp only [List.mem_cons, List.not_mem_nil, or_false] at hid
    rcases hid with rfl | rfl
    · rfl
    · rfl
  rw [← hwanted]
  exact (clients_identified granting () [.getClient site (request "a")] site (request id)).2.2
    "http://localhost:8585" "t" ht

end Kit

end AgentReporting
