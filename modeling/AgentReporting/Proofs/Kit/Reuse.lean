import AgentReporting.Proofs.Kit.Identity
import AgentReporting.Proofs.Kit.Sessions
import Mathlib.Data.List.DropRight

/-! # Whether the connection is kept

When a client makes way for another one, the names of the new session are foretold while the
old client is still open. They are the ones that the new session is asked for under, so the
liveness connection is kept exactly if the Agent can continue under the same names.
-/

namespace AgentReporting

variable {σ τ α ρ : Type}

/-! ## Closings of the connection -/

structure Attended (τ : Type) where
  world : τ
  closings : Nat := 0

namespace Attended

def onWorld (act : StateM τ α) : StateM (Attended τ) α := fun attended =>
  let (a, world) := act.run attended.world
  (a, { attended with world })

def within (act : Act τ α) : Act (Attended τ) α :=
  Act.within Attended.world (fun world attended => { attended with world }) act

def note : Act (Attended τ) Unit :=
  Act.modifyOutside fun attended => { attended with closings := attended.closings + 1 }

end Attended

namespace Network

variable (net : Network τ)

def attended : Network (Attended τ) where
  http request := Attended.onWorld (net.http request)
  automate command := Attended.onWorld (net.automate command)
  openSocket host port := Attempt.ofResult (Attended.within (net.openSocket host port).result)
  closeSocket := do
    Attended.note
    Attended.within net.closeSocket

def closings (traced : Traced (Attended τ)) : Nat := traced.world.closings

theorem attended_spares : net.attended.traced.Spares closings := fun _ _ => rfl

theorem closings_openSocket (host : String) (port : Int) :
    (net.attended.traced.openSocket host port).Keeps closings := fun _ => rfl

theorem closings_closeSocket (trail : Trail (Traced (Attended τ))) :
    closings (net.attended.traced.closeSocket.run trail).2.outside =
      closings trail.outside + 1 := rfl

end Network

namespace Client

variable {net : Network σ} {view : σ → ρ}

/-- What neither the status request nor the requests for the session nor the connection can
reach is as it was once a session was asked for. -/
theorem startSession_keeps (hnet : net.SparesPrompt view)
    (hopen : ∀ host port, (net.openSocket host port).Keeps view) {site : Callsite}
    {channel : Channel} {config : Config} {caps : Capabilities} {settings : Option ReportSettings}
    (hsession : ∀ body, Json.encode? (sessionRequest site caps settings) = some body →
      ∀ s, view ((net.http (sessionCall channel body)).run s).2 = view s) :
    (startSession net site channel config caps settings).Keeps view := by
  refine .seq (.lift (.write _)) fun _ => .seq (checkVersion_keeps hnet _ _ _) fun _ => ?_
  split
  · rename_i body hb
    exact .seq (requestSession_keeps (hsession body hb) _) fun answer =>
      answer_keeps hopen _ _ answer _
  · exact .fault _

theorem start_keeps (hnet : net.SparesPrompt view)
    (hopen : ∀ host port, (net.openSocket host port).Keeps view) {site : Callsite}
    {config : Config} {address token : String} {request : ClientRequest}
    (hr : request.disableReports = false) {P : ReportSettings → Prop}
    (hg : (completeSettings (σ := σ) site request.settings).Gives P)
    (hsession : ∀ settings body, P settings →
      Json.encode? (sessionRequest site request.capabilities (some settings)) = some body →
        ∀ s, view ((net.http (sessionCall { address, token } body)).run s).2 = view s) :
    (start net site config address token request).Keeps view := by
  have hcomplete : (some <$> completeSettings (σ := σ) site request.settings).Gives
      fun settings => ∃ given, settings = some given ∧ P given :=
    .seq hg fun given hp => .answer ⟨given, rfl, hp⟩
  have hgives : (settingsFor (σ := σ) site token request).Gives
      fun settings => ∃ given, settings = some given ∧ P given := by
    simp only [settingsFor, hr, Bool.false_eq_true, if_false]
    exact .ite (.next fun _ => hcomplete) hcomplete
  rw [start_eq]
  refine .seq_of_gives (settingsFor_keeps site token request) hgives fun settings hs => ?_
  obtain ⟨given, rfl, hp⟩ := hs
  refine .seq (startSession_keeps hnet hopen fun body hb => ?_) fun client => .answer _
  exact hsession given body hp hb

end Client

/-! ## Names that are foretold -/

structure ReportSettings.Names (settings : ReportSettings) (project job : String) : Prop where
  project : settings.project = some project
  job : settings.job = some job

theorem ReportSettings.exists_names_of_isComplete {settings : ReportSettings}
    (h : settings.isComplete = true) : ∃ project job, settings.Names project job := by
  obtain ⟨hp, hj⟩ := (Bool.and_eq_true _ _).mp h
  obtain ⟨project, hp, -⟩ := (Option.any_eq_true _ _).mp hp
  obtain ⟨job, hj, -⟩ := (Option.any_eq_true _ _).mp hj
  exact ⟨project, job, hp, hj⟩

theorem ReportSettings.Names.mergedWith {inferred : ReportSettings} {project job : String}
    (h : inferred.Names project job) (settings : ReportSettings) :
    ∃ project job, (settings.mergedWith inferred).Names project job := by
  have hprefer (explicit : Option String) (name : String) :
      ∃ given, prefer explicit (some name) = some given := by
    unfold prefer
    split
    · rename_i hp
      obtain ⟨given, hg, -⟩ := (Option.any_eq_true _ _).mp hp
      exact ⟨given, hg⟩
    · exact ⟨name, rfl⟩
  obtain ⟨given, hg⟩ := hprefer settings.project project
  obtain ⟨given', hg'⟩ := hprefer settings.job job
  rw [← h.project] at hg
  rw [← h.job] at hg'
  exact ⟨given, given', hg, hg'⟩

theorem Naming.settings_gives_names (site : Callsite) :
    (settings (σ := σ) site).Gives fun found => ∃ project job, found.Names project job := by
  have hscript : (scriptSettings (σ := σ) site).Gives
      fun found => ∃ project job, found.Names project job := by
    have hunnamed : (Attempt.lift (useUnnamed (σ := σ))).Gives
        fun found => ∃ project job, found.Names project job := by
      rintro trail found ⟨⟩
      exact ⟨_, _, rfl, rfl⟩
    unfold scriptSettings
    split
    · exact hunnamed
    · exact .ite hunnamed (.ite (.fault _) (.answer ⟨_, _, rfl, rfl⟩))
  refine .next fun found => ?_
  cases found with
  | none => exact hscript
  | some found =>
    dsimp only
    by_cases hc : found.isComplete = true
    · rw [if_pos hc]
      exact .answer (ReportSettings.exists_names_of_isComplete hc)
    · rw [if_neg hc]
      exact hscript

namespace Client

/-- The request for a session names this project and this job. -/
structure Carries (data : Value) (project job : String) : Prop where
  project : data.field? "projectName" = some (.str project)
  job : data.field? "jobName" = some (.str job)

theorem carries_sessionRequest_iff {site : Callsite} {caps : Capabilities}
    {settings : Option ReportSettings} {project job : String} :
    Carries (sessionRequest site caps settings) project job ↔
      ∃ given, settings = some given ∧ given.Names project job := by
  cases settings with
  | none =>
    refine iff_of_false (fun h => ?_) fun ⟨_, h, _⟩ => nomatch h
    have hp := h.project
    simp [sessionRequest, Value.field?, Value.fields?, Entries.get?_cons] at hp
  | some given =>
    simp only [Option.some.injEq, exists_eq_left']
    have hproject : (sessionRequest site caps (some given)).field? "projectName" =
        some (Value.ofText? given.project) := by
      simp [sessionRequest, settingsFields, Value.field?, Value.fields?, Entries.get?_cons]
    have hjob : (sessionRequest site caps (some given)).field? "jobName" =
        some (Value.ofText? given.job) := by
      simp [sessionRequest, settingsFields, Value.field?, Value.fields?, Entries.get?_cons]
    have htext (name : Option String) (text : String) :
        some (Value.ofText? name) = some (.str text) ↔ name = some text := by
      cases name with
      | none => exact iff_of_false (fun h => nomatch h) fun h => nomatch h
      | some given => simp [Value.ofText?]
    constructor
    · rintro ⟨hp, hj⟩
      exact ⟨(htext _ _).mp (hproject ▸ hp), (htext _ _).mp (hjob ▸ hj)⟩
    · rintro ⟨hp, hj⟩
      exact ⟨hproject.trans ((htext _ _).mpr hp), hjob.trans ((htext _ _).mpr hj)⟩

theorem completeSettings_gives_names (site : Callsite) (given : Option ReportSettings) :
    (completeSettings (σ := σ) site given).Gives fun found =>
      ∃ project job, found.Names project job := by
  unfold completeSettings
  split
  · rename_i settings hf
    exact .answer (ReportSettings.exists_names_of_isComplete (Option.filter_eq_some_iff.mp hf).2)
  · refine .seq (Naming.settings_gives_names site) fun inferred hi => ?_
    refine .next fun _ => .next fun _ => .answer ?_
    obtain ⟨project, job, hn⟩ := hi
    cases given with
    | none => exact ⟨project, job, hn⟩
    | some given => exact hn.mergedWith given

end Client

namespace Kit

/-! ## The old client makes way -/

/-- A client was closed, and the connection was not. -/
structure Kept (id : Nat) (before after : Kit (Traced (Attended τ))) : Prop where
  ended : ∃ client, after.clients[id]? = some client ∧ client.closed = true
  unclosed : Network.closings after.world = Network.closings before.world

section

variable {net : Network τ} {before after : Kit (Traced (Attended τ))} {site : Callsite}
  {request : ClientRequest} {id : Nat} {old : Client}

theorem not_kept_of_open (hi : after.clients[id]? = some old) (ho : old.closed = false) :
    ¬ Kept id before after := by
  rintro ⟨⟨client, hc, hclosed⟩, -⟩
  rw [hi] at hc
  cases hc
  rw [ho] at hclosed
  cases hclosed

theorem kept_congr {other : Kit (Traced (Attended τ))}
    (hi : after.clients[id]? = other.clients[id]?)
    (hw : Network.closings after.world = Network.closings other.world) :
    Kept id before after ↔ Kept id before other := by
  constructor
  · rintro ⟨he, hu⟩
    exact ⟨hi ▸ he, hw ▸ hu⟩
  · rintro ⟨he, hu⟩
    exact ⟨hi ▸ he, hw ▸ hu⟩

theorem Ends.closings {closeSocket : Bool}
    (h : Ends net.attended.traced closeSocket id before after)
    (hi : before.clients[id]? = some old) (ho : old.closed = false) :
    Network.closings after.world = if closeSocket then Network.closings before.world + 1
      else Network.closings before.world := by
  cases h with
  | idle h =>
    rw [h old hi] at ho
    cases ho
  | @ended client _ trail _ ho' ht =>
    rw [← ht]
    exact Client.view_close net.attended_spares.prompt (f := (· + 1)) ho'
      (fun _ => net.closings_closeSocket) trail

variable (hc : before.cached = some id) (hi : before.clients[id]? = some old)
  (ho : old.closed = false)

include hc hi ho

theorem Retires.kept_iff (h : Retires net.attended.traced site request before after) :
    Kept id before after ↔ Decides site request before old true := by
  cases h with
  | nobody h =>
    rw [hc, Option.bind_some, hi] at h
    cases h
  | @client other client keep trail _ hc' hi' hk h =>
    obtain rfl : id = other := Option.some.inj (hc.symm.trans hc')
    obtain rfl : old = client := Option.some.inj (hi.symm.trans hi')
    have hkeep : Decides site request before old keep :=
      (Act.Quiet.same (keepsSocket_quiet site old request) _ _).trans hk
    have hclosings := h.closings hi ho
    cases keep with
    | true => exact iff_of_true ⟨h.ends hi, hclosings⟩ hkeep
    | false =>
      refine iff_of_false (fun hkept => ?_) fun hd => nomatch hkeep.unique hd
      have hunclosed := hkept.unclosed
      rw [hclosings] at hunclosed
      exact absurd hunclosed (Nat.succ_ne_self _)

theorem Renews.kept_iff {config : Config} {address token : String}
    {answer : Except Fault (Nat × Client)}
    (h : Renews net.attended.traced site config address token request before answer after)
    (hr : request.disableReports = false) :
    Kept id before after ↔ Decides site request before old true := by
  have hstart : (Client.start net.attended.traced site config address token request).Keeps
      Network.closings :=
    Client.start_keeps net.attended_spares.prompt net.closings_openSocket hr (P := fun _ => True)
      (fun _ _ _ => trivial) fun _ _ _ _ => net.attended_spares _
  cases h with
  | @unnamed other client fault trail hc' hi' hk =>
    obtain rfl : id = other := Option.some.inj (hc.symm.trans hc')
    obtain rfl : old = client := Option.some.inj (hi.symm.trans hi')
    refine iff_of_false (not_kept_of_open hi ho) fun hd => ?_
    exact nomatch hk.symm.trans ((Act.Quiet.same (keepsSocket_quiet site old request) _ _).trans hd)
  | @failed retired _ trail hretires ht =>
    rw [← hretires.kept_iff hc hi ho]
    exact kept_congr rfl ((hstart trail).trans (congrArg Network.closings ht))
  | @started retired client trail hretires ht =>
    rw [← hretires.kept_iff hc hi ho]
    have hlt : id < retired.clients.length := by
      rw [hretires.length]
      exact (List.getElem?_eq_some_iff.mp hi).1
    exact kept_congr (List.getElem?_append_left hlt)
      ((hstart trail).trans (congrArg Network.closings ht))

/-- A client makes way with its connection kept exactly if the request comes to an address and a
token, and the names and the version are as they must be. -/
theorem Serves.kept_iff {trail : Trail (Kit (Traced (Attended τ)))}
    {answer : Except Fault (Nat × Client)} (ht : trail.outside = before)
    (hr : request.disableReports = false)
    (hs : Value.same old.trackingId (request.trackingId site trail) = false)
    (h : Serves net.attended.traced site request trail answer after) :
    Kept id before after ↔
      (∃ target, request.target (request.configuration site trail).1 = .ok target) ∧
        Decides site request before old true := by
  subst ht
  cases h with
  | refused hf =>
    refine iff_of_false (not_kept_of_open hi ho) fun ⟨⟨target, h⟩, _⟩ => ?_
    exact nomatch hf.symm.trans h
  | @shared other client h =>
    obtain ⟨hc', hi', -, hsame⟩ := shared?_eq_some.mp h
    obtain rfl : id = other := Option.some.inj (hc.symm.trans hc')
    obtain rfl : old = client := Option.some.inj (hi.symm.trans hi')
    exact nomatch hs.symm.trans hsame
  | renewed htarget hn h =>
    -- the capabilities that are asked for have no part in what is decided
    have hkept := h.kept_iff hc hi ho hr
    exact hkept.trans (and_iff_right ⟨_, htarget⟩).symm

end

/-! ## The new session is asked for -/

/-- A request for a session is sent with the data that is planned. -/
def AsPlanned (site : Callsite) (request : ClientRequest) (trail : Trail σ) (sent : HttpRequest) :
    Prop :=
  ∀ channel body, sent = Client.sessionCall channel body →
    ∃ wanted, Plans site request trail wanted ∧ Json.encode? wanted = some body

/-- What the new session is asked for under is what was foretold of it. -/
theorem decides_iff_plans {site : Callsite} {request : ClientRequest} {trail : Trail (Kit τ)}
    {old : Client} {site' : Callsite} {caps : Capabilities} {granted : Value}
    (hr : request.disableReports = false) (hv : old.version = granted.get "version") :
    ((∃ target, request.target (request.configuration site trail).1 = .ok target) ∧
        Decides site request trail.outside old true) ↔
      ∃ wanted project job, Plans site request trail wanted ∧
        Client.Carries (Client.sessionRequest site' caps old.settings) project job ∧
        Client.Carries wanted project job ∧ Version.Continues (granted.get "version") := by
  rw [decides_true_iff, ← hv]
  constructor
  · rintro ⟨⟨target, ht⟩, ⟨held, asked, hs, ha, hproject, hjob⟩, hversion⟩
    have hcompletes : Client.Completes site request.settings asked := by
      simpa [Asks, hr] using ha
    obtain ⟨project, job, hnames⟩ := Client.completeSettings_gives_names site _ _ asked hcompletes
    have hheld : held.Names project job :=
      ⟨hproject.trans hnames.project, hjob.trans hnames.job⟩
    refine ⟨_, project, job, ⟨target, some asked, ht, ⟨hr, hcompletes⟩, rfl⟩, ?_, ?_, hversion⟩
    · exact Client.carries_sessionRequest_iff.mpr ⟨held, hs, hheld⟩
    · exact Client.carries_sessionRequest_iff.mpr ⟨asked, rfl, hnames⟩
  · rintro ⟨_, project, job, ⟨target, settings, ht, hseeks, rfl⟩, ho, hw, hversion⟩
    obtain ⟨held, hs, hheld⟩ := Client.carries_sessionRequest_iff.mp ho
    obtain ⟨asked, rfl, hnames⟩ := Client.carries_sessionRequest_iff.mp hw
    refine ⟨⟨target, ht⟩, ⟨held, asked, hs, ?_, ?_, ?_⟩, hversion⟩
    · simpa [Asks, hr] using hseeks.2
    · exact hheld.project.trans hnames.project.symm
    · exact hheld.job.trans hnames.job.symm

end Kit

namespace Traced

variable {kind : HttpRequest → Prop}

open Classical in
/-- The exchanges up to the last one whose request is of another kind. -/
noncomputable def upTo (kind : HttpRequest → Prop) (traced : Traced τ) : List Exchange :=
  traced.exchanges.rdropWhile fun exchange => kind exchange.request

theorem upTo_send {net : Network τ} {request : HttpRequest} (h : kind request)
    (traced : Traced τ) : upTo kind ((net.traced.http request).run traced).2 = upTo kind traced :=
  List.rdropWhile_concat_pos _ _ _ (by simpa using h)

theorem kind_of_upTo_eq {before after : Traced τ} (h : upTo kind after = upTo kind before)
    {exchange : Exchange} (he : exchange ∈ after.exchanges.drop before.exchanges.length) :
    kind exchange.request := by
  classical
  have hlen : (upTo kind before).length ≤ before.exchanges.length :=
    (List.rdropWhile_prefix _ _).length_le
  have hafter : after.exchanges =
      upTo kind after ++ after.exchanges.rtakeWhile fun exchange => kind exchange.request :=
    List.rdropWhile_append_rtakeWhile.symm
  rw [hafter, h, List.drop_append, List.drop_eq_nil_of_le hlen, List.nil_append] at he
  simpa using List.mem_rtakeWhile_imp (List.mem_of_mem_drop he)

end Traced

namespace Kit

section

variable {net : Network τ} {site : Callsite} {request : ClientRequest}
  {trail : Trail (Kit (Traced τ))}

theorem asPlanned_of_prompt {sent : HttpRequest} (h : sent.readTimeout = Timeout.connection) :
    AsPlanned site request trail sent := by
  rintro channel body rfl
  have hne : Timeout.session ≠ Timeout.connection := by
    intro heq
    exact absurd (Value.float.inj heq) (by decide)
  exact absurd h hne

/-- Every request that is sent for a client until its session is granted or refused is as planned,
and so are those of the client that makes way for it. -/
theorem Serves.upTo_eq (hr : request.disableReports = false)
    {answer : Except Fault (Nat × Client)} {after : Kit (Traced τ)}
    (h : Serves net.traced site request trail answer after) :
    after.world.upTo (AsPlanned site request trail) =
      trail.outside.world.upTo (AsPlanned site request trail) := by
  have hprompt : net.traced.SparesPrompt (Traced.upTo (AsPlanned site request trail)) :=
    fun sent s ht => Traced.upTo_send (asPlanned_of_prompt ht) s
  have hretires {request' : ClientRequest} {retired : Kit (Traced τ)}
      (h : Retires net.traced site request' trail.outside retired) :
      retired.world.upTo (AsPlanned site request trail) =
        trail.outside.world.upTo (AsPlanned site request trail) := by
    cases h with
    | nobody => rfl
    | client _ _ _ h =>
      cases h with
      | idle => rfl
      | ended _ ho ht =>
        refine (Client.view_close hprompt (f := fun v => v) ho (fun _ _ => rfl) _).trans ?_
        rw [ite_self, ht]
  have hstarts {address token : String}
      (ht : request.target (request.configuration site trail).1 = .ok (address, token)) :
      (Client.start net.traced site (request.configuration site trail).1 address token
        { request with capabilities := request.tracked site trail }).Keeps
          (Traced.upTo (AsPlanned site request trail)) := by
    refine Client.start_keeps hprompt (fun _ _ _ => rfl) hr
      (P := Client.Completes site request.settings) ?_ ?_
    · exact fun other settings h => (Client.completes_iff other).mp h
    · intro settings body hs hb s
      refine Traced.upTo_send ?_ s
      intro channel body' hsent
      obtain rfl : body = body' := Option.some.inj (congrArg HttpRequest.body hsent)
      exact ⟨_, ⟨_, some settings, ht, ⟨hr, hs⟩, rfl⟩, hb⟩
  cases h with
  | refused => rfl
  | shared => rfl
  | renewed ht _ h =>
    cases h with
    | unnamed => rfl
    | failed hretired hworld =>
      exact (hstarts ht _).trans ((congrArg _ hworld).trans (hretires hretired))
    | started hretired hworld =>
      exact (hstarts ht _).trans ((congrArg _ hworld).trans (hretires hretired))

end

/-- After any history the client that makes way is closed without its connection exactly if its
session was asked for under the project and the job that the next session is asked for under,
and its Agent told a version from which on sessions can be reused. -/
theorem connection_kept_iff (net : Network τ) (world : τ) (demands : List Demand) (site : Callsite)
    (request : ClientRequest) (id : Nat) (old : Client) :
    let counted := net.attended.traced
    let start := opening (τ := Traced (Attended τ)) { world := { world } }
    let trail := meets counted start demands
    let done := (getClient counted site request).result.run trail
    trail.outside.cached = some id → trail.outside.clients[id]? = some old → old.closed = false →
      request.disableReports = false →
        Value.same old.trackingId (request.trackingId site trail) = false →
          ∃ data granted, Begun counted start demands id data granted ∧
            (Kept id trail.outside done.2.outside ↔
              ∃ wanted project job, Plans site request trail wanted ∧
                Client.Carries data project job ∧ Client.Carries wanted project job ∧
                  Version.Continues (granted.get "version")) ∧
            ∀ exchange ∈ done.2.outside.world.exchanges.drop trail.outside.world.exchanges.length,
              AsPlanned site request trail exchange.request := by
  intro counted start trail done hc hi ho hr hs
  have hserves := getClient_serves counted site request trail
  obtain ⟨site', caps, granted, hbegun, hv⟩ :=
    begins_meets net.attended { world } demands id old hi
  refine ⟨_, granted, hbegun, ?_, fun exchange he => ?_⟩
  · exact (hserves.kept_iff hc hi ho rfl hr hs).trans (decides_iff_plans hr hv)
  · exact Traced.kind_of_upTo_eq (hserves.upTo_eq hr) he

def continuing : Network Unit where
  http _ := return .ok ⟨200, "\x7b\"capabilities\": \x7b\x7d, \"version\": \"0.64.32\"\x7d"⟩
  automate _ := return .ok .null
  openSocket _ _ := return ()
  closeSocket := return ()

def firstContinued : Trail (Kit (Traced (Attended Unit))) :=
  meets continuing.attended.traced (opening { world := { world := () } })
    [.getClient bareSite (jobRequest "a" "j")]

def secondContinued :=
  (getClient continuing.attended.traced bareSite (jobRequest "b" "j")).result.run firstContinued

theorem firstContinued_current : ∃ old, firstContinued.outside.cached = some 0 ∧
    firstContinued.outside.clients[0]? = some old ∧ old.closed = false ∧
      Value.same old.trackingId ((jobRequest "b" "j").trackingId bareSite firstContinued) =
        false := by
  have hold : firstContinued.outside.cached = some 0 ∧
      (firstContinued.outside.clients[0]?).map (fun old => (old.closed, Value.same old.trackingId
        ((jobRequest "b" "j").trackingId bareSite firstContinued))) = some (false, false) := by
    decide +kernel
  obtain ⟨hc, hm⟩ := hold
  obtain ⟨old, hi, heq⟩ := Option.map_eq_some_iff.mp hm
  obtain ⟨ho, hs⟩ := Prod.mk.inj heq
  exact ⟨old, hc, hi, ho, hs⟩

theorem same_names_keep_connection :
    Kept 0 firstContinued.outside secondContinued.2.outside ∧
      ∃ data granted wanted project job,
        Begun continuing.attended.traced (opening { world := { world := () } })
          [.getClient bareSite (jobRequest "a" "j")] 0 data granted ∧
        Plans bareSite (jobRequest "b" "j") firstContinued wanted ∧
        Client.Carries data project job ∧ Client.Carries wanted project job ∧
        Version.Continues (granted.get "version") := by
  have hkept : Kept 0 firstContinued.outside secondContinued.2.outside := by
    have hclosed : (secondContinued.2.outside.clients[0]?).map (·.closed) = some true := by
      decide +kernel
    obtain ⟨client, hi, hc⟩ := Option.map_eq_some_iff.mp hclosed
    exact ⟨⟨client, hi, hc⟩, by decide +kernel⟩
  obtain ⟨old, hc, hi, ho, hs⟩ := firstContinued_current
  obtain ⟨data, granted, hbegun, hiff, -⟩ := connection_kept_iff continuing ()
    [.getClient bareSite (jobRequest "a" "j")] bareSite (jobRequest "b" "j") 0 old hc hi ho rfl hs
  obtain ⟨wanted, project, job, hplans, hdata, hwanted, hcontinuable⟩ := hiff.mp hkept
  exact ⟨hkept, data, granted, wanted, project, job, hbegun, hplans, hdata, hwanted, hcontinuable⟩

end Kit

end AgentReporting
