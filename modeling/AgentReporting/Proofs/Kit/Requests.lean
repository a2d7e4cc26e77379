import AgentReporting.Proofs.Kit.Keeping

/-! # What requests leave alone

Reports and handshakes reach the outside by requests only. A view of it that no request
changes stays as it is while reports are posted and sessions are asked for.
-/

namespace AgentReporting

variable {σ α β ρ : Type} {view : σ → ρ}

theorem Act.Keeps.outside_act {act : StateM σ α} (h : ∀ s, view (act.run s).2 = view s) :
    (Act.outside act).Keeps view := fun trail => h trail.outside

/-! ## Reports are posted -/

namespace Outbox

theorem fail_keeps : Stateful.Keeps (σ := σ) view fail := by
  refine .seq .look fun outbox => .seq (.put _) fun _ => ?_
  exact .ite (.act (.write _)) (.answer _)

theorem finish_keeps (outbox : Outbox) : (finish (σ := σ) outbox).Keeps view :=
  .ite (.write _) (.answer _)

theorem writable_keeps (reports : List Report) : (writable (σ := σ) reports).Keeps view := by
  induction reports with
  | nil => exact .answer _
  | cons report rest ih =>
    refine .ite (.seq ih fun _ => .answer _) ?_
    exact .seq (.write _) fun _ => ih

variable {post : Post σ} (hpost : ∀ route body, (post route body).Keeps view)

include hpost

theorem postReport_keeps (route : String) (report : Report) (body : String) :
    Stateful.Keeps view (postReport post route report body) := by
  refine .seq (.act (hpost route body)) fun outcome => ?_
  cases outcome with
  | error fault =>
    exact .ite (.seq (.act (.write _)) fun _ => .seq fail_keeps fun _ => .answer _) (.answer _)
  | ok status =>
    refine .ite (.seq (.change _) fun _ => .answer _) ?_
    exact .seq (.act (.write _)) fun _ => .seq fail_keeps fun _ => .answer _

theorem deliver_keeps (parcel : Parcel) : Stateful.Keeps view (deliver post parcel) := by
  cases parcel with
  | wake =>
    refine .seq .look fun outbox => ?_
    exact .ite (.seq (.act (.write _)) fun _ => .answer _) (.answer _)
  | report route report =>
    unfold deliver
    dsimp only
    split
    · exact .seq (.act (.write _)) fun _ => .answer _
    · exact postReport_keeps hpost _ _ _

theorem postBatch_keeps (route body : String) (count attempts : Nat) :
    (postBatch post route body count attempts).Keeps view := by
  induction attempts with
  | zero => exact .answer _
  | succ attempts ih =>
    refine .seq (hpost route body) fun outcome => ?_
    cases outcome with
    | error fault => exact .ite (.seq (.write _) fun _ => ih) (.answer _)
    | ok status =>
      refine .ite (.answer _) (.seq (.write _) fun _ => ?_)
      exact .ite (.seq (.write _) fun _ => ih) ih

theorem deliverBatch_keeps (route : String) (maxAttempts : Int) (reports : List Report) :
    (deliverBatch post route maxAttempts reports).Keeps view := by
  refine .seq (writable_keeps reports) fun payloads => .ite (.answer _) ?_
  refine .seq (postBatch_keeps hpost _ _ _ _) fun outcome => ?_
  split <;> exact .answer _

theorem handle_keeps : Stateful.Keeps view (handle post) := by
  refine .seq .look fun outbox => ?_
  split
  · exact .answer _
  · exact .seq (.put _) fun _ => deliver_keeps hpost _
  · exact .seq (.put _) fun _ => .act (deliverBatch_keeps hpost _ _ _)

theorem handleLogged_keeps : Stateful.Keeps view (handleLogged post) := by
  refine .seq (handle_keeps hpost) fun outcome => ?_
  split
  · exact .answer _
  · exact .seq (.act (.write _)) fun _ => .answer _
  · exact .answer _

end Outbox

namespace Worker

theorem check_keeps (worker : Worker) : (check (σ := σ) worker).Keeps view :=
  .ite (.answer _) (.seq (Outbox.finish_keeps _) fun _ => .answer _)

variable {post : Post σ} (hpost : ∀ route body, (post route body).Keeps view)

include hpost

theorem turn_keeps (worker : Worker) : (turn post worker).Keeps view := by
  refine .seq (Outbox.handleLogged_keeps hpost worker.outbox) fun (result, outbox) => ?_
  cases result with
  | ok => exact check_keeps _
  | error fault => exact .answer _

theorem turns_keeps (fuel : Nat) (worker : Worker) : (turns post fuel worker).Keeps view := by
  induction fuel generalizing worker with
  | zero => exact .answer _
  | succ fuel ih => exact .ite (.seq (turn_keeps hpost worker) fun _ => ih _) (.answer _)

end Worker

/-! ## An answer is read -/

namespace Client

theorem unreadable_keeps (answer : HttpAnswer) (text : String) (failure : ConnectFailure) :
    (unreadable (τ := σ) (α := α) answer text failure).Keeps view :=
  .seq (.lift (.write _)) fun _ => .fault _

theorem completeSettings_keeps (site : Callsite) (given : Option ReportSettings) :
    (completeSettings (σ := σ) site given).Keeps view := by
  unfold completeSettings
  split
  · exact .answer _
  · refine .seq (Naming.settings_quiet site).keeps fun inferred => ?_
    exact .seq (.lift (.write _)) fun _ => .seq (.lift (.write _)) fun _ => .answer _

theorem versionIn_keeps (answer : HttpAnswer) : (versionIn (τ := σ) answer).Keeps view := by
  rw [versionIn]
  cases answer.body?.bind (·.field? "tag") with
  | none =>
    have hfail : (unreadable answer "Failed to parse Agent response: " .unreadableAnswer :
        Attempt σ Value).Keeps view := unreadable_keeps _ _ _
    exact .ite (.seq (.lift (.write _)) fun _ => hfail) hfail
  | some version => exact .ite (.seq (.lift (.write _)) fun _ => .answer _) (.answer _)

theorem answerFields_keeps (answer : HttpAnswer) : (answerFields (τ := σ) answer).Keeps view := by
  unfold answerFields
  split
  · exact unreadable_keeps _ _ _
  · exact .ite (.answer _) (.fault _)

theorem sessionIn_keeps (caps : Capabilities) (data : Value) :
    (sessionIn (τ := σ) caps data).Keeps view := by
  refine .seq (.ofExcept _) fun granted => .seq (.ofExcept _) fun dialect => ?_
  exact .ite (.seq (.answer _) fun _ => .answer _)
    (.seq (.seq (.lift .freshId) fun _ => .answer _) fun _ => .answer _)

theorem showWarnings_keeps (warnings : Value) : (showWarnings (τ := σ) warnings).Keeps view := by
  refine .ite (.answer _) (.seq (.ofExcept _) fun items => ?_)
  induction items with
  | nil => exact .answer _
  | cons item rest ih => exact .seq (.lift (.write _)) fun _ => ih

end Client

/-! ## A client sends requests -/

def Network.Spares (net : Network σ) (view : σ → ρ) : Prop :=
  ∀ request s, view ((net.http request).run s).2 = view s

/-- No request that waits for an answer as long as for a connection changes the view: neither a
report does nor a question for the version. -/
def Network.SparesPrompt (net : Network σ) (view : σ → ρ) : Prop :=
  ∀ request s, request.readTimeout = Timeout.connection →
    view ((net.http request).run s).2 = view s

theorem Network.Spares.prompt {net : Network σ} (h : net.Spares view) : net.SparesPrompt view :=
  fun request s _ => h request s

variable {net : Network σ}

theorem Channel.send_keeps {channel : Channel} {method route : String} {timeout : Value}
    {body : Option String}
    (h : ∀ s, view ((net.http (channel.request method route timeout body)).run s).2 = view s) :
    (channel.send net method route timeout body).Keeps view :=
  .ite (.ofResult (.outside_act h)) (.fault _)

theorem Client.requestSession_keeps {channel : Channel} {body : String}
    (h : ∀ s, view ((net.http
      (channel.request "POST" Route.session Timeout.session (some body))).run s).2 = view s)
    (caps : Capabilities) : (requestSession net channel caps body).Keeps view := by
  refine .seq (.ofResult (.seq (channel.send_keeps h) fun _ => .answer _)) fun answer => ?_
  exact .ite (.answer _) (.seq (.lift (.write _)) fun _ => .fault _)

namespace Client

variable (hnet : net.SparesPrompt view)

include hnet

theorem post_keeps (channel : Channel) (route body : String) :
    (post net channel route body).Keeps view :=
  .seq (channel.send_keeps fun s => hnet _ s rfl) fun _ => .answer _

theorem settle_keeps (client : Client) : (settle net client).Keeps view := by
  unfold settle
  split
  · exact .answer _
  · exact .seq (Worker.turns_keeps (post_keeps hnet _) _ _) fun _ => .answer _

theorem stopWorker_keeps (client : Client) : (stopWorker net client).Keeps view := by
  refine .seq (settle_keeps hnet _) fun settled => ?_
  split
  · exact .answer _
  · exact .ite (.answer _) (.seq (.write _) fun _ => .seq (.write _) fun _ => .answer _)

theorem askVersion_keeps (address : String) : (askVersion net address).Keeps view := by
  refine .seq (.lift (.outside_act fun s => hnet _ s rfl)) fun outcome => ?_
  cases outcome with
  | ok answer => exact versionIn_keeps answer
  | error fault => exact .ite (.seq (.lift (.write _)) fun _ => .fault _) (.fault _)

theorem checkVersion_keeps (site : Callsite) (address : String) (caps : Capabilities) :
    (checkVersion net site address caps).Keeps view := by
  refine .ite (.answer _) ?_
  refine .seq (.lift (Config.ofEnvironment_quiet _).keeps) fun config => ?_
  refine .seq (.ofExcept _) fun address => .seq (askVersion_keeps hnet _) fun version => ?_
  exact .seq (Version.valueAtLeast_quiet _ _).keeps fun _ => .ite (.fault _) (.answer _)

end Client

/-! ## A client is started -/

namespace Client

/-- The settings with which a session is asked for: none if nothing is to be reported. -/
def settingsFor (site : Callsite) (token : String) (request : ClientRequest) :
    Attempt σ (Option ReportSettings) := do
  if !isHeaderText token then throw foreignToken
  if request.disableReports then pure none
  else some <$> completeSettings site request.settings

theorem settingsFor_keeps (site : Callsite) (token : String) (request : ClientRequest) :
    (settingsFor (σ := σ) site token request).Keeps view := by
  have hsettings : (some <$> completeSettings site request.settings).Keeps view :=
    .seq (completeSettings_keeps _ _) fun _ => .answer _
  exact .ite (.seq (.fault _) fun _ => .ite (.answer _) hsettings) (.ite (.answer _) hsettings)

def staffed (config : Config) (request : ClientRequest) (client : Client) : Client :=
  if request.disableReports then client else
    { client with worker := some {
        outbox := { outbox config request.batchReports with running := true }
        phase := .waiting } }

theorem staffed_eq (config : Config) (request : ClientRequest) (client : Client) :
    ∃ worker, staffed config request client = { client with worker } := by
  unfold staffed
  split
  · exact ⟨client.worker, rfl⟩
  · exact ⟨_, rfl⟩

/-- A client is started in three steps: the settings for its session are found, the session is
asked for, and a consumer is added where it reports. -/
theorem start_eq (net : Network σ) (site : Callsite) (config : Config) (address token : String)
    (request : ClientRequest) : start net site config address token request = (do
      let settings ← settingsFor site token request
      let client ← startSession net site { address, token } config request.capabilities settings
      return staffed config request client) := by
  have hstaffed (client : Client) : (do
      if request.disableReports then return client
      let worker ← Attempt.lift (Worker.start { outbox := outbox config request.batchReports })
      return { client with worker := some worker } : Attempt σ Client) =
        pure (staffed config request client) := by
    unfold staffed
    cases request.disableReports with
    | true => rfl
    | false => rfl
  simp only [start, settingsFor, hstaffed]
  cases isHeaderText token with
  | false => rfl
  | true =>
    cases request.disableReports with
    | true => rfl
    | false => rfl

end Client

end AgentReporting
