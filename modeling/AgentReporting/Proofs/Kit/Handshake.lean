import AgentReporting.Proofs.Kit.Escaping
import AgentReporting.Proofs.Kit.Requests

/-! # Handshakes that a fault escapes

An answer of the Agent that is no JSON text, or that refuses the session, is told by a
documented fault. One that is taken for granted is read field by field, and the fields
that are not of the kind they are read as are those that let a fault escape.
-/

namespace AgentReporting

variable {σ α : Type}

structure Network.Discloses (net : Network σ) : Prop where
  http : ∀ request state fault, ((net.http request).run state).1 = .error fault →
    fault.isTransfer = true
  openSocket : ∀ host port, (net.openSocket host port).Discloses

namespace HttpAnswer

def tag? (answer : HttpAnswer) : Option Value := answer.body?.bind (·.field? "tag")

def version (answer : HttpAnswer) : Except Fault Value :=
  match answer.tag? with
  | some version => .ok version
  | none => .error (.connect .unreadableAnswer)

theorem version_eq_ok_iff {answer : HttpAnswer} {version : Value} :
    answer.version = .ok version ↔ answer.tag? = some version := by
  unfold HttpAnswer.version
  cases answer.tag? with
  | none => simp
  | some tag => simp

end HttpAnswer

namespace Client

/-! ## The version of the Agent -/

theorem run_versionIn (answer : HttpAnswer) (trail : Trail σ) :
    ((versionIn answer).result.run trail).1 = answer.version := by
  have hread (trail : Trail σ) : ((match answer.tag? with
      | some version => return version
      | none => unreadable answer "Failed to parse Agent response: " .unreadableAnswer :
      Attempt σ Value).result.run trail).1 = answer.version := by
    unfold HttpAnswer.version
    cases answer.tag? with
    | none => rfl
    | some tag => rfl
  by_cases hs : answer.status = 200
  · simp only [versionIn, hs, ne_eq, not_true, if_false]
    exact hread _
  · simp only [versionIn, hs, ne_eq, not_false_iff, if_true]
    exact hread _

variable {net : Network σ}

theorem run_askVersion (address : String) (trail : Trail σ) :
    let asked := (net.http (statusRequest address)).run trail.outside
    let done := (askVersion net address).result.run trail
    done.2.outside = asked.2 ∧ done.1 = match asked.1 with
      | .ok answer => answer.version
      | .error fault => .error (if fault.isTransfer then .connect .statusRequest else fault) := by
  intro asked done
  have hdone : done = ((match asked.1 with
    | .ok answer => versionIn answer
    | .error fault => do
      if fault.isTransfer then
        Attempt.error s!"Failed to get Agent status: {fault.shown}"
        throw (.connect .statusRequest)
      throw fault : Attempt σ Value).result.run { trail with outside := asked.2 }) := by
    simp only [done, askVersion, Attempt.run_bind, Attempt.run_lift]
    rfl
  rw [hdone]
  cases asked.1 with
  | ok answer =>
    exact ⟨Attempt.Keeps.outside (versionIn_keeps answer) _, run_versionIn _ _⟩
  | error fault => cases hf : fault.isTransfer <;> simp only [hf] <;> exact ⟨rfl, rfl⟩

theorem askVersion_eq_ok_iff {address : String} {version : Value} {trail : Trail σ} :
    ((askVersion net address).result.run trail).1 = .ok version ↔
      ∃ answer, ((net.http (statusRequest address)).run trail.outside).1 = .ok answer ∧
        answer.tag? = some version := by
  rw [(run_askVersion address trail).2]
  cases ((net.http (statusRequest address)).run trail.outside).1 with
  | ok answer => simp [HttpAnswer.version_eq_ok_iff]
  | error fault => simp

theorem askVersion_discloses (hnet : net.Discloses) (address : String) :
    (askVersion net address).Discloses := by
  rintro trail ⟨fault, hf, hd⟩
  rw [(run_askVersion address trail).2] at hf
  have hhttp := hnet.http (statusRequest address) trail.outside
  cases hs : ((net.http (statusRequest address)).run trail.outside).1 with
  | ok answer =>
    rw [hs] at hf
    simp only [HttpAnswer.version] at hf
    split at hf <;> cases hf
    cases hd
  | error cause =>
    rw [hs] at hf
    simp only [hhttp cause hs, if_true] at hf
    cases hf
    cases hd

/-- The check of the version lets the capabilities pass, and takes the network from the first
state to the second: for any platform the Agent tells a version that is recent enough. -/
inductive Passes (net : Network σ) (address : String) (caps : Capabilities) (before : σ) :
    σ → Prop where
  | named (h : Capabilities.isAnyPlatform caps = false) : Passes net address caps before before
  | known {status : String} {answer : HttpAnswer} {text : String} {version : Version}
      (h : Capabilities.isAnyPlatform caps = true)
      (ha : Address.resolve {} (some address) = .ok status)
      (hs : ((net.http (statusRequest status)).run before).1 = .ok answer)
      (ht : answer.tag? = some (.str text)) (hv : Version.ofString text = .ok version)
      (hm : version.atLeast [0, 64, 40] = true) :
      Passes net address caps before ((net.http (statusRequest status)).run before).2

variable {site : Callsite} {address : String} {caps : Capabilities}

theorem obsolete_discloses (version : Value) (recent : Bool) :
    (if !recent then throw (obsoleteAgent version) else pure () : Attempt σ Unit).Discloses :=
  .ite (.fault rfl) (.answer _)

theorem checkVersion_escapes_iff (hnet : net.Discloses) (hne : address ≠ "") {trail : Trail σ} :
    (checkVersion net site address caps).Escapes trail ↔ Capabilities.isAnyPlatform caps = true ∧
      ((∃ fault, Address.resolve {} (some address) = .error fault) ∨
        ∃ status answer version, Address.resolve {} (some address) = .ok status ∧
          ((net.http (statusRequest status)).run trail.outside).1 = .ok answer ∧
            answer.tag? = some version ∧ version.isForeignText = true) := by
  cases hany : Capabilities.isAnyPlatform caps with
  | false =>
    rw [checkVersion, hany]
    exact iff_of_false (Attempt.not_escapes_pure ()) fun h => nomatch h.1
  | true =>
    rw [checkVersion, hany]
    simp only [Bool.not_true, Bool.false_eq_true, if_false]
    rw [Attempt.escapes_lift_bind_iff, Attempt.escapes_bind_iff,
      (Address.resolve_undocumented _ _).escapes_iff, Address.resolve_some _ {} hne]
    simp only [Attempt.run_ofExcept, (askVersion_discloses hnet _).escapes_iff,
      askVersion_eq_ok_iff, Config.ofEnvironment_outside, true_and,
      Attempt.escapes_bind_left_iff _ (obsolete_discloses _), Version.valueAtLeast_escapes_iff]
    refine or_congr_right ⟨?_, ?_⟩
    · rintro ⟨status, ha, version, ⟨answer, hs, ht⟩, hv⟩
      exact ⟨status, answer, version, ha, hs, ht, hv⟩
    · rintro ⟨status, answer, version, ha, hs, ht, hv⟩
      exact ⟨status, ha, version, ⟨answer, hs, ht⟩, hv⟩

theorem ofString_anyPlatformVersion :
    Version.ofString anyPlatformVersion = .ok [0, 64, 40] :=
  eq_ok_of_toOption (by decide +kernel)

theorem obsolete_eq_ok_iff (version : Value) (recent : Bool) {trail : Trail σ} :
    ((if !recent then throw (obsoleteAgent version) else pure () :
      Attempt σ Unit).result.run trail).1 = .ok () ↔ recent = true := by
  cases recent with
  | false => exact iff_of_false (fun h => nomatch h) Bool.false_ne_true
  | true => exact iff_of_true rfl rfl

theorem checkVersion_any_eq_ok_iff (hany : Capabilities.isAnyPlatform caps = true)
    (hne : address ≠ "") {trail : Trail σ} :
    ((checkVersion net site address caps).result.run trail).1 = .ok () ↔
      ∃ status answer text version, Address.resolve {} (some address) = .ok status ∧
        ((net.http (statusRequest status)).run trail.outside).1 = .ok answer ∧
          answer.tag? = some (.str text) ∧ Version.ofString text = .ok version ∧
            version.atLeast [0, 64, 40] = true := by
  simp only [checkVersion, hany, Bool.not_true, Bool.false_eq_true, if_false,
    Attempt.bind_eq_ok_iff, Attempt.run_lift, Attempt.run_ofExcept, Address.resolve_some _ {} hne,
    askVersion_eq_ok_iff, obsolete_eq_ok_iff, Config.ofEnvironment_outside]
  simp only [exists_eq_right,
    Version.valueAtLeast_eq_true_iff _ ofString_anyPlatformVersion]
  constructor
  · rintro ⟨_, -, status, ha, _, ⟨answer, hs, ht⟩, text, version, rfl, hv, hm⟩
    exact ⟨status, answer, text, version, ha, hs, ht, hv, hm⟩
  · rintro ⟨status, answer, text, version, ha, hs, ht, hv, hm⟩
    exact ⟨_, rfl, status, ha, _, ⟨answer, hs, ht⟩, text, version, rfl, hv, hm⟩

theorem checkVersion_outside (hany : Capabilities.isAnyPlatform caps = true) (hne : address ≠ "")
    {status : String} (ha : Address.resolve {} (some address) = .ok status) (trail : Trail σ) :
    ((checkVersion net site address caps).result.run trail).2.outside =
      ((net.http (statusRequest status)).run trail.outside).2 := by
  have hcompared (version : Value) : (do
      if !(← Version.valueAtLeast version anyPlatformVersion) then throw (obsoleteAgent version) :
      Attempt σ Unit).Keeps fun state => state :=
    .seq (Version.valueAtLeast_quiet _ _).keeps fun _ => .ite (.fault _) (.answer _)
  simp only [checkVersion, hany, Bool.not_true, Bool.false_eq_true, if_false]
  rw [Attempt.run_bind_of_ok rfl, Attempt.run_bind_of_ok (a := status) ?_]
  · refine (Attempt.Keeps.after _ hcompared _).trans ((run_askVersion status _).1.trans ?_)
    rw [Attempt.run_ofExcept, Attempt.run_lift, Config.ofEnvironment_outside]
  · rw [Attempt.run_ofExcept, Address.resolve_some _ {} hne, ha]

/-- The check succeeds, and leads to the second state of the network, exactly if it passes. -/
theorem checkVersion_eq_ok_iff (hne : address ≠ "") {trail : Trail σ} {after : σ} :
    (((checkVersion net site address caps).result.run trail).1 = .ok () ∧
      ((checkVersion net site address caps).result.run trail).2.outside = after) ↔
        Passes net address caps trail.outside after := by
  constructor
  · rintro ⟨h, rfl⟩
    cases hany : Capabilities.isAnyPlatform caps with
    | false =>
      rw [checkVersion, hany]
      exact .named hany
    | true =>
      obtain ⟨status, answer, text, version, ha, hs, ht, hv, hm⟩ :=
        (checkVersion_any_eq_ok_iff hany hne).mp h
      rw [checkVersion_outside hany hne ha]
      exact .known hany ha hs ht hv hm
  · intro h
    cases h with
    | named hany =>
      rw [checkVersion, hany]
      exact ⟨rfl, rfl⟩
    | known hany ha hs ht hv hm =>
      refine ⟨?_, checkVersion_outside hany hne ha trail⟩
      exact (checkVersion_any_eq_ok_iff hany hne).mpr ⟨_, _, _, _, ha, hs, ht, hv, hm⟩

/-! ## The request for a session -/

theorem explain_documented {fault : Fault} (h : fault.isTransfer = true) (address : String) :
    (explain address fault).isDocumented = true := by
  cases fault with
  | transfer kind text => cases kind <;> rfl
  | _ => cases h

theorem refusal_documented (answer : HttpAnswer) (caps : Capabilities) :
    (refusal answer caps).2.isDocumented = true := by
  unfold refusal
  split
  · rfl
  · split
    · rfl
    · split <;> rfl

variable {channel : Channel} {body : String}

def sessionCall (channel : Channel) (body : String) : HttpRequest :=
  channel.request "POST" Route.session Timeout.session (some body)

theorem run_requestSession (ho : channel.isOpen = true) (trail : Trail σ) :
    ((requestSession net channel caps body).result.run trail).1 =
      match ((net.http (sessionCall channel body)).run trail.outside).1 with
      | .ok answer => if answer.isSuccess then .ok answer else .error (refusal answer caps).2
      | .error fault => .error (explain channel.address fault) := by
  have hsent : (Attempt.ofResult (do
        return (← (channel.send net "POST" Route.session Timeout.session
          (some body)).result).mapError (explain channel.address))).result.run trail =
      (((net.http (sessionCall channel body)).run trail.outside).1.mapError
          (explain channel.address),
        { trail with outside := ((net.http (sessionCall channel body)).run trail.outside).2 }) := by
    rw [Channel.send, if_pos ho]
    rfl
  rw [requestSession, Attempt.run_bind, hsent]
  cases ((net.http (sessionCall channel body)).run trail.outside).1 with
  | error fault => rfl
  | ok answer =>
    cases hs : answer.isSuccess with
    | true => simp only [Except.mapError, hs, if_true]; rfl
    | false => simp only [Except.mapError, hs]; rfl

theorem requestSession_discloses (hnet : net.Discloses) (ho : channel.isOpen = true) :
    (requestSession net channel caps body).Discloses := by
  rintro trail ⟨fault, hf, hd⟩
  rw [run_requestSession ho] at hf
  split at hf
  · split at hf
    · cases hf
    · cases hf
      rw [refusal_documented] at hd
      cases hd
  · rename_i cause hs
    cases hf
    rw [explain_documented (hnet.http _ _ _ hs)] at hd
    cases hd

theorem requestSession_eq_ok_iff (ho : channel.isOpen = true) {answer : HttpAnswer}
    {trail : Trail σ} :
    ((requestSession net channel caps body).result.run trail).1 = .ok answer ↔
      ((net.http (sessionCall channel body)).run trail.outside).1 = .ok answer ∧
        answer.isSuccess = true := by
  rw [run_requestSession ho]
  cases ((net.http (sessionCall channel body)).run trail.outside).1 with
  | error fault => simp
  | ok other =>
    dsimp only
    constructor
    · intro h
      split at h
      · cases h
        exact ⟨rfl, ‹_›⟩
      · cases h
    · rintro ⟨⟨⟩, hs⟩
      exact if_pos hs

/-! ## The answer -/

/-- Data that has a field of another kind than its reading expects. Whether there are warnings
and a port matters only where the dialect can be read, since it is read before them. -/
inductive Misshapen (data : Value) : Prop where
  | body (h : data.isDict = false)
  | capabilities {fault : Fault} (h : (data.get "capabilities").asEntries = .error fault)
  | dialect (h : (data.get "dialect").isForeignText = true)
  | warnings {fault : Fault} {dialect : Option Dialect}
      (hd : Dialect.ofValue (data.get "dialect") = .ok dialect)
      (ht : (data.get "warnings").truthy = true)
      (h : (data.get "warnings").iterated = .error fault)
  | port {fault : Fault} {dialect : Option Dialect}
      (hd : Dialect.ofValue (data.get "dialect") = .ok dialect)
      (ht : (data.get "devSocketPort").truthy = true)
      (h : (data.get "devSocketPort").wholeNumber = .error fault)

theorem answerFields_escapes_iff (answer : HttpAnswer) {trail : Trail σ} :
    (answerFields answer).Escapes trail ↔
      ∃ data, answer.body? = some data ∧ data.isDict = false := by
  unfold answerFields
  split
  · rename_i hb
    rw [hb]
    refine iff_of_false ?_ fun ⟨_, h, _⟩ => nomatch h
    exact (Attempt.Discloses.lift _).seq (fun _ => .fault rfl) trail
  · rename_i data hb
    rw [hb, Attempt.escapes_ite_iff, Attempt.escapes_throw_iff]
    simp [Attempt.not_escapes_pure, Fault.noAttribute, Fault.isDocumented]

theorem answerFields_eq_ok_iff {answer : HttpAnswer} {data : Value} {trail : Trail σ} :
    ((answerFields answer).result.run trail).1 = .ok data ↔
      answer.body? = some data ∧ data.isDict = true := by
  unfold answerFields
  split
  · rename_i hb
    rw [hb]
    exact iff_of_false (fun h => nomatch h) fun ⟨h, _⟩ => nomatch h
  · rename_i read hb
    rw [hb]
    constructor
    · intro h
      split at h
      · cases h
        exact ⟨rfl, ‹_›⟩
      · cases h
    · rintro ⟨⟨⟩, hd⟩
      rw [if_pos hd]
      rfl

theorem dialectOf_eq_ok_iff {v : Value} {dialect : Option Dialect} :
    dialectOf v = .ok dialect ↔ Dialect.ofValue v = .ok dialect := by
  unfold dialectOf
  cases Dialect.ofValue v with
  | error fault => exact iff_of_false (fun h => nomatch h) fun h => nomatch h
  | ok read => rfl

theorem sessionIn_escapes_iff (data : Value) {trail : Trail σ} :
    (sessionIn caps data).Escapes trail ↔
      (∃ fault, (data.get "capabilities").asEntries = .error fault) ∨
        (∃ granted, (data.get "capabilities").asEntries = .ok granted) ∧
          (data.get "dialect").isForeignText = true := by
  unfold sessionIn
  rw [Attempt.escapes_bind_iff, (Value.asEntries_undocumented _).escapes_iff]
  simp only [Attempt.run_ofExcept]
  refine or_congr_right (Iff.trans (exists_congr fun granted => and_congr_right fun _ => ?_)
    exists_and_right)
  rw [Attempt.escapes_bind_left_iff, dialectOf_escapes_iff]
  exact fun dialect => .ite (.seq (.answer _) fun _ => .answer _)
    (.seq (.seq (.lift _) fun _ => .answer _) fun _ => .answer _)

theorem sessionIn_eq_ok_iff {data : Value} {trail : Trail σ} :
    (∃ session, ((sessionIn caps data).result.run trail).1 = .ok session) ↔
      (∃ granted, (data.get "capabilities").asEntries = .ok granted) ∧
        ∃ dialect, Dialect.ofValue (data.get "dialect") = .ok dialect := by
  simp only [sessionIn, Attempt.bind_eq_ok_iff, Attempt.run_ofExcept, dialectOf_eq_ok_iff]
  constructor
  · rintro ⟨_, granted, hg, dialect, hd, -⟩
    exact ⟨⟨granted, hg⟩, dialect, hd⟩
  · rintro ⟨⟨granted, hg⟩, dialect, hd⟩
    cases ht : (data.get "sessionId").truthy with
    | true => exact ⟨_, granted, hg, dialect, hd, rfl⟩
    | false => exact ⟨_, granted, hg, dialect, hd, rfl⟩

theorem warnEach_succeeds (items : List Value) (trail : Trail σ) :
    ((items.forM fun warning => Attempt.warn warning.display : Attempt σ Unit).result.run
      trail).1 = .ok () := by
  induction items generalizing trail with
  | nil => rfl
  | cons item rest ih =>
    exact Attempt.bind_eq_ok_iff.mpr ⟨(), rfl, ih _⟩

theorem showWarnings_escapes_iff (warnings : Value) {trail : Trail σ} :
    (showWarnings warnings).Escapes trail ↔
      warnings.truthy = true ∧ ∃ fault, warnings.iterated = .error fault := by
  have hlines (items : List Value) : (items.forM fun warning =>
      Attempt.warn warning.display : Attempt σ Unit).Discloses := by
    rintro trail ⟨fault, h, -⟩
    rw [warnEach_succeeds] at h
    cases h
  unfold showWarnings
  cases ht : warnings.truthy with
  | false => exact iff_of_false (Attempt.not_escapes_pure _) fun h => nomatch h.1
  | true =>
    simp only [Bool.not_true, Bool.false_eq_true, if_false, true_and]
    rw [Attempt.escapes_bind_left_iff _ hlines, (Value.iterated_undocumented _).escapes_iff]

theorem showWarnings_ends_iff (warnings : Value) {trail : Trail σ} :
    (∃ shown, ((showWarnings warnings).result.run trail).1 = .ok shown) ↔
      ¬ (warnings.truthy = true ∧ ∃ fault, warnings.iterated = .error fault) := by
  unfold showWarnings
  cases ht : warnings.truthy with
  | false => exact iff_of_true ⟨(), rfl⟩ fun h => nomatch h.1
  | true =>
    simp only [Bool.not_true, Bool.false_eq_true, if_false, true_and, Attempt.bind_eq_ok_iff,
      Attempt.run_ofExcept, warnEach_succeeds]
    cases warnings.iterated with
    | error fault => simp
    | ok items => simp

theorem openSocket_escapes_iff (hnet : net.Discloses) (port : Value) {trail : Trail σ} :
    (openSocket net address port).Escapes trail ↔
      port.truthy = true ∧ ∃ fault, port.wholeNumber = .error fault := by
  unfold openSocket
  cases ht : port.truthy with
  | false => exact iff_of_false (Attempt.not_escapes_pure _) fun h => nomatch h.1
  | true =>
    simp only [Bool.not_true, Bool.false_eq_true, if_false, true_and]
    rw [Attempt.escapes_bind_left_iff _ fun port => hnet.openSocket _ _,
      (Value.wholeNumber_undocumented _).escapes_iff]

/-- After the session is known, warnings and the port are what a fault can come from. -/
theorem greeting_escapes_iff (hnet : net.Discloses) (note : String) (warnings port : Value)
    (client : Client) {trail : Trail σ} :
    Attempt.Escapes (do
      Attempt.info note
      showWarnings warnings
      openSocket net address port
      return client) trail ↔
      (warnings.truthy = true ∧ ∃ fault, warnings.iterated = .error fault) ∨
        (port.truthy = true ∧ ∃ fault, port.wholeNumber = .error fault) := by
  rw [Attempt.info, Attempt.escapes_lift_bind_iff, Attempt.escapes_bind_iff,
    showWarnings_escapes_iff]
  simp only [Attempt.escapes_bind_left_iff _ fun _ => .answer _, openSocket_escapes_iff hnet,
    exists_and_right, showWarnings_ends_iff]
  by_cases hw : warnings.truthy = true ∧ ∃ fault, warnings.iterated = .error fault
  · exact iff_of_true (.inl hw) (.inl hw)
  · exact or_congr_right (and_iff_right hw)

theorem granted_escapes_iff (hnet : net.Discloses) {data : Value} (hd : data.isDict = true)
    (client : Session → Client) {trail : Trail σ} :
    Attempt.Escapes (do
      let session ← sessionIn caps data
      Attempt.info s!"Session [{session.id.display}] initialized"
      showWarnings (data.get "warnings")
      openSocket net address (data.get "devSocketPort")
      return client session) trail ↔ Misshapen data := by
  rw [Attempt.escapes_bind_iff, sessionIn_escapes_iff]
  simp only [greeting_escapes_iff hnet, exists_and_right, sessionIn_eq_ok_iff]
  constructor
  · rintro ((⟨fault, hc⟩ | ⟨-, hf⟩) | ⟨⟨-, dialect, hr⟩, ⟨ht, fault, hw⟩ | ⟨ht, fault, hp⟩⟩)
    · exact .capabilities hc
    · exact .dialect hf
    · exact .warnings hr ht hw
    · exact .port hr ht hp
  · intro h
    cases hc : (data.get "capabilities").asEntries with
    | error fault => exact .inl (.inl ⟨fault, rfl⟩)
    | ok granted =>
      cases h with
      | body h => exact absurd (hd.symm.trans h) Bool.false_ne_true.symm
      | capabilities h => exact absurd (hc.symm.trans h) (by simp)
      | dialect h => exact .inl (.inr ⟨⟨granted, rfl⟩, h⟩)
      | warnings hr ht hw => exact .inr ⟨⟨⟨granted, rfl⟩, _, hr⟩, .inl ⟨ht, _, hw⟩⟩
      | port hr ht hp => exact .inr ⟨⟨⟨granted, rfl⟩, _, hr⟩, .inr ⟨ht, _, hp⟩⟩

theorem answer_escapes_iff (hnet : net.Discloses) (answer : HttpAnswer)
    (client : Value → Session → Client) {trail : Trail σ} :
    Attempt.Escapes (do
      let data ← answerFields answer
      let session ← sessionIn caps data
      Attempt.info s!"Session [{session.id.display}] initialized"
      showWarnings (data.get "warnings")
      openSocket net address (data.get "devSocketPort")
      return client data session) trail ↔ ∃ data, answer.body? = some data ∧ Misshapen data := by
  rw [Attempt.escapes_bind_iff, answerFields_escapes_iff]
  simp only [answerFields_eq_ok_iff]
  constructor
  · rintro (⟨data, hb, hd⟩ | ⟨data, ⟨hb, hd⟩, h⟩)
    · exact ⟨data, hb, .body hd⟩
    · exact ⟨data, hb, (granted_escapes_iff hnet hd (client data)).mp h⟩
  · rintro ⟨data, hb, h⟩
    cases hd : data.isDict with
    | false => exact .inl ⟨data, hb, hd⟩
    | true => exact .inr ⟨data, ⟨hb, hd⟩, (granted_escapes_iff hnet hd (client data)).mpr h⟩

/-! ## The handshake -/

/-- What lets a fault escape that no documentation tells of: the address itself, or an answer of
the Agent, whose network is in the given state before the handshake. -/
inductive Misleads (net : Network σ) (site : Callsite) (channel : Channel) (caps : Capabilities)
    (settings : Option ReportSettings) (before : σ) : Prop where
  /-- The address is no address any more once it has been normalised. -/
  | address {fault : Fault} (h : Capabilities.isAnyPlatform caps = true)
      (ha : Address.resolve {} (some channel.address) = .error fault)
  /-- The version that the Agent tells is no text. -/
  | version {status : String} {answer : HttpAnswer} {version : Value}
      (h : Capabilities.isAnyPlatform caps = true)
      (ha : Address.resolve {} (some channel.address) = .ok status)
      (hs : ((net.http (statusRequest status)).run before).1 = .ok answer)
      (ht : answer.tag? = some version) (hv : version.isForeignText = true)
  /-- The session is granted, with data that has another shape. -/
  | session {asked : σ} {body : String} {answer : HttpAnswer} {data : Value}
      (hp : Passes net channel.address caps before asked)
      (hb : Json.encode? (sessionRequest site caps settings) = some body)
      (hs : ((net.http (sessionCall channel body)).run asked).1 = .ok answer)
      (hok : answer.isSuccess = true) (hd : answer.body? = some data) (hm : Misshapen data)

theorem startSession_escapes_iff (hnet : net.Discloses) (ho : channel.isOpen = true)
    (hne : channel.address ≠ "") {settings : Option ReportSettings} {config : Config}
    (hb : (Json.encode? (sessionRequest site caps settings)).isSome = true) {trail : Trail σ} :
    (startSession net site channel config caps settings).Escapes trail ↔
      Misleads net site channel caps settings trail.outside := by
  obtain ⟨body, hb⟩ := Option.isSome_iff_exists.mp hb
  rw [startSession, Attempt.info, Attempt.escapes_lift_bind_iff]
  have hnoted : ((Act.info "Initializing new session...").run trail).2.outside = trail.outside :=
    rfl
  rw [← hnoted]
  generalize ((Act.info "Initializing new session...").run trail).2 = noted
  rw [Attempt.escapes_bind_iff, checkVersion_escapes_iff hnet hne]
  simp only [hb, (requestSession_discloses hnet ho).escapes_iff, requestSession_eq_ok_iff ho,
    answer_escapes_iff hnet]
  constructor
  · rintro (⟨hany, ⟨fault, ha⟩ | ⟨status, answer, version, ha, hs, ht, hv⟩⟩ |
      ⟨_, hc, answer, ⟨hs, hok⟩, data, hd, hm⟩)
    · exact .address hany ha
    · exact .version hany ha hs ht hv
    · exact .session ((checkVersion_eq_ok_iff hne).mp ⟨hc, rfl⟩) hb hs hok hd hm
  · intro h
    cases h with
    | address hany ha => exact .inl ⟨hany, .inl ⟨_, ha⟩⟩
    | version hany ha hs ht hv => exact .inl ⟨hany, .inr ⟨_, _, _, ha, hs, ht, hv⟩⟩
    | session hp hb' hs hok hd hm =>
      obtain rfl : body = _ := Option.some.inj (hb.symm.trans hb')
      have hc : ((checkVersion net site channel.address caps).result.run noted).1 = .ok () ∧ _ :=
        (checkVersion_eq_ok_iff hne).mpr hp
      obtain ⟨hc, rfl⟩ := hc
      exact .inr ⟨_, hc, _, ⟨hs, hok⟩, _, hd, hm⟩

end Client

end AgentReporting
