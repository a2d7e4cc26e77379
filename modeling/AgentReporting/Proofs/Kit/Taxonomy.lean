import AgentReporting.Proofs.Json.Encoding
import AgentReporting.Proofs.Json.RoundTrip
import AgentReporting.Proofs.Kit.Handshake
import AgentReporting.Proofs.Kit.Holding
import AgentReporting.Proofs.Kit.Renewal

/-! # How a request for a client fails

A request with an address and a token, with capabilities that have a JSON text and with
complete names either gets a client or fails in a documented way, unless the Agent
misleads it: now, or when it told the version of the client that makes way.
-/

namespace AgentReporting

variable {σ τ α : Type}

/-! ## What is sent has a JSON text -/

theorem Capabilities.track_encodable {caps : Capabilities}
    (h : Json.fieldsEncodable caps = true) (trail : Trail σ) :
    Json.fieldsEncodable (caps.track.run trail).1 = true := by
  unfold track
  split
  · exact h
  · exact Json.fieldsEncodable_put h _ rfl

namespace Client

theorem ofText?_encodable (text : Option String) : Json.encodable (Value.ofText? text) = true := by
  cases text with
  | none => rfl
  | some text => rfl

theorem optionalName_encodable (key : String) (name : Option String) :
    Json.fieldsEncodable (optionalName key name) = true := by
  unfold optionalName
  cases Config.nonEmpty? name with
  | none => rfl
  | some text => rfl

theorem settingsFields_encodable (settings : ReportSettings) :
    Json.fieldsEncodable (settingsFields settings) = true := by
  simp [settingsFields, Json.fieldsEncodable, Json.fieldsEncodable_append, ofText?_encodable,
    optionalName_encodable, Json.encodable]

theorem sessionRequest_encodable (site : Callsite) {caps : Capabilities}
    (h : Json.fieldsEncodable caps = true) (settings : Option ReportSettings) :
    (Json.encode? (sessionRequest site caps settings)).isSome = true := by
  have hsettings : Json.fieldsEncodable ((settings.map settingsFields).getD []) = true := by
    cases settings with
    | none => rfl
    | some settings => exact settingsFields_encodable settings
  rw [Json.encode?_isSome_iff, sessionRequest, Json.encodable, Json.fieldsEncodable_append,
    hsettings]
  simp [Json.fieldsEncodable, Json.encodable, h, ofText?_encodable]

end Client

/-! ## The handshake of a request -/

namespace ClientRequest

def isNamed (request : ClientRequest) : Bool :=
  request.disableReports || request.settings.any (·.isComplete)

/-- The names that are sent; none where nothing is reported. -/
def sentSettings (request : ClientRequest) : Option ReportSettings :=
  if request.disableReports then none else request.settings

end ClientRequest

namespace Client

variable {net : Network σ} {site : Callsite} {config : Config} {address token : String}
  {request : ClientRequest}

theorem completeSettings_of_complete (site : Callsite) {settings : ReportSettings}
    (h : settings.isComplete = true) :
    completeSettings (σ := σ) site (some settings) = pure settings := by
  rw [completeSettings, Option.filter_some, if_pos h]

theorem settingsFor_of_named (hn : request.isNamed = true) (ht : isHeaderText token = true) :
    settingsFor (σ := σ) site token request = pure request.sentSettings := by
  unfold settingsFor ClientRequest.sentSettings
  rw [ht]
  cases hd : request.disableReports with
  | true => rfl
  | false =>
    have hcomplete : request.settings.any (·.isComplete) = true := by
      rwa [ClientRequest.isNamed, hd, Bool.false_or] at hn
    cases hs : request.settings with
    | none =>
      rw [hs] at hcomplete
      cases hcomplete
    | some settings =>
      rw [hs] at hcomplete
      simp only [Bool.not_true, Bool.false_eq_true, if_false,
        completeSettings_of_complete site hcomplete, map_pure]

theorem start_escapes_iff (hnet : net.Discloses) (hne : address ≠ "")
    (hn : request.isNamed = true) (hb : Json.fieldsEncodable request.capabilities = true)
    {trail : Trail σ} :
    (start net site config address token request).Escapes trail ↔
      isHeaderText token = false ∨
        Misleads net site { address, token } request.capabilities request.sentSettings
          trail.outside := by
  cases ht : isHeaderText token with
  | false =>
    have hthrow : (start net site config address token request).Escapes trail := by
      rw [start, ht]
      exact ⟨_, rfl, rfl⟩
    exact iff_of_true hthrow (.inl rfl)
  | true =>
    rw [start_eq, settingsFor_of_named hn ht, pure_bind,
      Attempt.escapes_bind_left_iff _ fun client => .answer _,
      startSession_escapes_iff hnet rfl hne (sessionRequest_encodable _ hb _)]
    simp

end Client

/-! ## The client that makes way -/

namespace Kit

variable {net : Network τ} {site : Callsite} {request : ClientRequest}

/-- The version of the cached client is to be compared, as the names asked for are the same, but
it is no text. -/
inductive Incomparable (kit : Kit τ) (asked : Option ReportSettings) : Prop where
  | cached {id : Nat} {client : Client} {old new : ReportSettings} (hc : kit.cached = some id)
      (hi : kit.clients[id]? = some client) (hold : client.settings = some old)
      (hnew : asked = some new) (hsame : old.sameNames new = true)
      (hv : client.version.isForeignText = true)

theorem keepsSocket_of_named (hn : request.isNamed = true) (client : Client) :
    keepsSocket (σ := σ) site client request =
      match client.settings, request.settings with
      | some old, some new => if old.sameNames new then canReuse client else return false
      | _, _ => return false := by
  have hsettings : requestedSettings (σ := σ) site client request = pure request.settings := by
    unfold requestedSettings
    cases hd : request.disableReports with
    | true => simp
    | false =>
      have hcomplete : request.settings.any (·.isComplete) = true := by
        rwa [ClientRequest.isNamed, hd, Bool.false_or] at hn
      simp [hcomplete]
  rw [keepsSocket, hsettings]
  rfl

theorem keepsSocket_escapes_iff (hn : request.isNamed = true) (client : Client)
    {trail : Trail σ} :
    (keepsSocket site client request).Escapes trail ↔ ∃ old new, client.settings = some old ∧
      request.settings = some new ∧ old.sameNames new = true ∧
        client.version.isForeignText = true := by
  rw [keepsSocket_of_named hn]
  cases client.settings with
  | none => exact iff_of_false (Attempt.not_escapes_pure _) fun ⟨_, _, h, _⟩ => nomatch h
  | some old =>
    cases request.settings with
    | none => exact iff_of_false (Attempt.not_escapes_pure _) fun ⟨_, _, _, h, _⟩ => nomatch h
    | some new =>
      simp [Attempt.escapes_ite_iff, canReuse, Version.valueAtLeast_escapes_iff,
        Attempt.not_escapes_pure]

theorem keepsSocket_fault {fault : Fault} (hn : request.isNamed = true) {client : Client}
    {trail : Trail σ} (h : ((keepsSocket site client request).result.run trail).1 = .error fault) :
    fault.isDocumented = false := by
  rw [keepsSocket_of_named hn] at h
  split at h
  · split at h
    · unfold canReuse Version.valueAtLeast at h
      split at h
      · cases h
      · split at h
        · cases h
          rfl
        · cases h
    · cases h
  · cases h

theorem retireCached_escapes_iff (hn : request.isNamed = true) {trail : Trail (Kit τ)} :
    (retireCached net site request).Escapes trail ↔
      Incomparable trail.outside request.settings := by
  rw [retireCached, Attempt.escapes_lift_bind_iff, Act.run_getOutside]
  dsimp only
  cases hc : trail.outside.cached with
  | none =>
    refine iff_of_false (Attempt.not_escapes_pure _) fun h => ?_
    cases h with
    | cached hc' => cases hc.symm.trans hc'
  | some id =>
    dsimp only
    cases hi : trail.outside.clients[id]? with
    | none =>
      refine iff_of_false (Attempt.not_escapes_pure _) fun h => ?_
      cases h with
      | cached hc' hi' =>
        cases hc.symm.trans hc'
        cases hi.symm.trans hi'
    | some client =>
      dsimp only
      rw [Attempt.escapes_bind_left_iff _ fun _ => .lift _, keepsSocket_escapes_iff hn]
      constructor
      · rintro ⟨old, new, hold, hnew, hsame, hv⟩
        exact .cached hc hi hold hnew hsame hv
      · intro h
        cases h with
        | cached hc' hi' hold hnew hsame hv =>
          cases hc.symm.trans hc'
          cases hi.symm.trans hi'
          exact ⟨_, _, hold, hnew, hsame, hv⟩

theorem retireCached_ends (hn : request.isNamed = true) {trail : Trail (Kit τ)}
    (h : ¬ Incomparable trail.outside request.settings) :
    ((retireCached net site request).result.run trail).1 = .ok () := by
  rcases run_retireCached net site request trail with
    ⟨fault, hf, -, id, client, -, -, hk⟩ | ⟨hr, -⟩
  · exact absurd ((retireCached_escapes_iff hn).mp ⟨fault, hf, keepsSocket_fault hn hk⟩) h
  · exact hr

/-! ## A request -/

/-- The network as the handshake for a request finds it, the cached client having made way. -/
def vacated (net : Network τ) (site : Callsite) (request : ClientRequest)
    (trail : Trail (Kit τ)) : τ :=
  ((retireCached net site { request with capabilities := request.tracked site trail }).result.run
    (request.capabilities.track.run (request.configuration site trail).2).2).2.outside.world

theorem attemptOnWorld_escapes_iff (attempt : Attempt τ α) {trail : Trail (Kit τ)} :
    (attemptOnWorld attempt).Escapes trail ↔
      attempt.Escapes { trail with outside := trail.outside.world } := .rfl

theorem getClient_escapes_iff (hnet : net.Discloses) {address token : String}
    {trail : Trail (Kit τ)}
    (ht : request.target (request.configuration site trail).1 = .ok (address, token))
    (hn : request.isNamed = true) (hb : Json.fieldsEncodable request.capabilities = true) :
    (getClient net site request).Escapes trail ↔
      shared? trail.outside (request.tracked site trail) = none ∧
        (Incomparable trail.outside request.settings ∨ Client.isHeaderText token = false ∨
          Client.Misleads net site { address, token } (request.tracked site trail)
            request.sentSettings (vacated net site request trail)) := by
  obtain ⟨ha, hk⟩ := ClientRequest.target_eq_ok_iff.mp ht
  have hnoted := request.noted_outside site trail
  have htracked : (request.capabilities.track.run (request.configuration site trail).2).1 =
    request.tracked site trail := rfl
  have hstarted : ({ request with capabilities := request.tracked site trail } :
    ClientRequest).isNamed = true := hn
  have hcaps : Json.fieldsEncodable (request.tracked site trail) = true :=
    Capabilities.track_encodable hb _
  have hne : address ≠ "" := Address.resolve_ne_empty ha
  rw [Attempt.Escapes, run_getClient]
  change (getClientUnder net site request _).Escapes _ ↔ _
  rw [getClientUnder, Attempt.escapes_bind_of_ok (by rw [Attempt.run_ofExcept, ha]),
    Attempt.escapes_bind_of_ok (by rw [Attempt.run_ofExcept, hk]), Attempt.escapes_lift_bind_iff,
    Attempt.escapes_lift_bind_iff, Act.run_getOutside]
  simp only [Attempt.run_ofExcept, hnoted, htracked]
  cases shared? trail.outside (request.tracked site trail) with
  | some shared =>
    exact iff_of_false (Attempt.not_escapes_pure _) fun h => Option.some_ne_none shared h.1
  | none =>
    dsimp only
    rw [Attempt.escapes_bind_iff, retireCached_escapes_iff hstarted, hnoted]
    simp only [Attempt.escapes_bind_left_iff _ fun _ => .seq (.lift _) fun _ => .answer _,
      attemptOnWorld_escapes_iff, true_and, Client.start_escapes_iff hnet hne hstarted hcaps]
    by_cases h : Incomparable trail.outside request.settings
    · exact iff_of_true (.inl h) (.inl h)
    · refine or_congr_right ?_
      constructor
      · rintro ⟨_, -, h⟩
        exact h
      · intro hm
        exact ⟨(), retireCached_ends hstarted (by rw [hnoted]; exact h), hm⟩

end Kit

/-! ## The live network -/

theorem Liveness.connect_discloses (dial : String → Int → Act τ (Option String)) (host : String)
    (port : Int) : (Attempt.ofResult (Network.onLiveness (connect dial host port))).Discloses := by
  rintro trail ⟨fault, hf, hd⟩
  change (((connect dial host port).run trail.outside.liveness).run
    { trail with outside := trail.outside.world }).1.1 = .error fault at hf
  simp only [connect, StateT.run_bind, StateT.run_get, pure_bind] at hf
  split at hf
  · cases hf
  · rw [run_lift_bind] at hf
    split at hf
    · cases hf
    · cases hf
      cases hd

theorem Network.live_discloses {http : HttpRequest → StateM τ (Except Fault HttpAnswer)}
    (hhttp : ∀ request world fault, ((http request).run world).1 = .error fault →
      fault.isTransfer = true)
    (automate : WireCommand → StateM τ (Except Fault Value))
    (dial : String → Int → Act τ (Option String)) (hangUp : Act τ (Option String)) :
    (live http automate dial hangUp).Discloses where
  http request held fault h := hhttp request held.world fault h
  openSocket host port := Liveness.connect_discloses dial host port

namespace Kit

/-- A request gets a client or fails in a documented way exactly if it shares the cached client,
or if its token can be sent and neither the version that the cached client was told nor the
answers to its own handshake mislead the reading of them. -/
theorem client_or_documented_iff (http : HttpRequest → StateM τ (Except Fault HttpAnswer))
    (automate : WireCommand → StateM τ (Except Fault Value))
    (dial : String → Int → Act τ (Option String)) (hangUp : Act τ (Option String))
    (hhttp : ∀ request world fault, ((http request).run world).1 = .error fault →
      fault.isTransfer = true)
    (site : Callsite) (request : ClientRequest) (trail : Trail (Kit (Network.Held τ)))
    {address token : String}
    (ht : request.target (request.configuration site trail).1 = .ok (address, token))
    (hb : (Json.encode? (.dict request.capabilities)).isSome = true)
    (hn : request.isNamed = true) :
    let net := Network.live http automate dial hangUp
    let answer := ((getClient net site request).result.run trail).1
    ((∃ got, answer = .ok got) ∨ ∃ fault, answer = .error fault ∧ fault.isDocumented = true) ↔
      (∃ shared, shared? trail.outside (request.tracked site trail) = some shared) ∨
        (¬ Incomparable trail.outside request.settings ∧ Client.isHeaderText token = true ∧
          ¬ Client.Misleads net site { address, token } (request.tracked site trail)
            request.sentSettings (vacated net site request trail)) := by
  intro net answer
  have hnet : net.Discloses := Network.live_discloses hhttp automate dial hangUp
  rw [← Attempt.not_escapes_iff,
    getClient_escapes_iff hnet ht hn ((Json.encode?_isSome_iff _).mp hb), not_and_or, ← ne_eq,
    Option.ne_none_iff_exists', not_or, not_or, Bool.not_eq_false]

def repeating (text : String) : Network (Network.Held Unit) :=
  Network.live (fun _ => return .ok ⟨200, text⟩) (fun _ => return .ok .null)
    (fun _ _ => return none) (return none)

def browserRequest : ClientRequest :=
  { capabilities := [(browserKey, .str "chrome")], token := some "t"
    settings := some { project := some "p", job := some "j" }, config := some {} }

theorem browserRequest_target (site : Callsite) (trail : Trail σ) :
    browserRequest.target (browserRequest.configuration site trail).1 =
      .ok ("http://localhost:8585", "t") :=
  ClientRequest.target_eq_ok_iff.mpr ⟨Address.resolve_default, rfl⟩

/-- A port that is no number keeps a session from being started, with no documented fault. -/
theorem client_without_port_number :
    let site : Callsite := { directory := { absolute := true, parts := [] } }
    let trail : Trail (Kit (Network.Held Unit)) := { outside := { world := { world := () } } }
    let answer := ((getClient (repeating "\x7b\"devSocketPort\": \"soon\"\x7d") site
      browserRequest).result.run trail).1
    (Json.encode? (.dict browserRequest.capabilities)).isSome = true ∧
      browserRequest.isNamed = true ∧
        ¬ ((∃ got, answer = .ok got) ∨
          ∃ fault, answer = .error fault ∧ fault.isDocumented = true) := by
  intro site trail answer
  have hiff := client_or_documented_iff
    (fun _ => return .ok ⟨200, "\x7b\"devSocketPort\": \"soon\"\x7d"⟩) (fun _ => return .ok .null)
    (fun _ _ => return none) (return none) (fun _ _ _ h => nomatch h) site browserRequest trail
    (browserRequest_target site trail) (by decide +kernel) (by decide +kernel)
  refine ⟨by decide +kernel, by decide +kernel, ?_⟩
  intro h
  obtain ⟨_, hs⟩ | ⟨-, -, hm⟩ := hiff.mp h
  · cases hs
  · have hcaps : Json.fieldsEncodable (browserRequest.tracked site trail) = true := by
      decide +kernel
    obtain ⟨body, hb⟩ := Option.isSome_iff_exists.mp
      (Client.sessionRequest_encodable site hcaps browserRequest.sentSettings)
    have hport : (HttpAnswer.mk 200 "\x7b\"devSocketPort\": \"soon\"\x7d").body? =
        some (.dict [("devSocketPort", .str "soon")]) := by
      have hx : (Value.dict [("devSocketPort", .str "soon")]).Exact :=
        .dict (by decide) (by simp [Value.Exact.str])
      have ht : String.ofList (Json.text (.dict [("devSocketPort", .str "soon")])) =
          "\x7b\"devSocketPort\": \"soon\"\x7d" := by decide +kernel
      rw [HttpAnswer.body?, ← ht]
      exact Json.read?_text hx
    obtain ⟨fault, hnumber⟩ : ∃ fault, Value.wholeNumber (.str "soon") = .error fault := by
      have hnone : Decimal.int? "soon" = none := by decide +kernel
      exact ⟨_, by rw [Value.wholeNumber, hnone]⟩
    exact hm (.session (.named (by decide +kernel)) hb rfl rfl hport (.port rfl rfl hnumber))

theorem session_answered_by_list :
    let site : Callsite := { directory := { absolute := true, parts := [] } }
    let trail : Trail (Kit (Network.Held Unit)) := { outside := { world := { world := () } } }
    browserRequest.target (browserRequest.configuration site trail).1 =
      .ok ("http://localhost:8585", "t") ∧
    (Json.encode? (.dict browserRequest.capabilities)).isSome = true ∧
    browserRequest.isNamed = true ∧
    (getClient (repeating "[]") site browserRequest).Escapes trail := by
  intro site trail
  refine ⟨browserRequest_target site trail, by decide +kernel, by decide +kernel, ?_⟩
  decide +kernel

end Kit

end AgentReporting
