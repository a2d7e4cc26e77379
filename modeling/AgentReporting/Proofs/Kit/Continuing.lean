import AgentReporting.Proofs.Kit.Escaping
import AgentReporting.Proofs.Naming.HiddenFrames

/-! # Sessions that are continued

An Agent continues the session of a client for another request under the same project and the
same job, if its version can. The names of the new session are foretold while the old client
is still open, and they are those that the new session is asked for under.
-/

namespace AgentReporting

variable {σ τ : Type}

namespace Client

def Completes (site : Callsite) (given : Option ReportSettings) (settings : ReportSettings) :
    Prop :=
  ((completeSettings (σ := Unit) site given).result.run { outside := () }).1 = .ok settings

theorem completeSettings_agrees (site : Callsite) (given : Option ReportSettings) :
    (completeSettings (σ := σ) site given).Agrees (completeSettings (σ := τ) site given) := by
  unfold completeSettings
  split
  · exact .answer _
  · refine .seq (Naming.settings_agrees site) fun inferred => ?_
    exact .seq (.write _) fun _ => .seq (.write _) fun _ => .answer _

theorem completes_iff {site : Callsite} {given : Option ReportSettings}
    {settings : ReportSettings} (trail : Trail σ) :
    ((completeSettings site given).result.run trail).1 = .ok settings ↔
      Completes site given settings := by
  rw [Completes, completeSettings_agrees (τ := Unit) site given trail { outside := () }]

theorem ofString_reuseVersion : Version.ofString reuseVersion = .ok [0, 64, 32] :=
  eq_ok_of_toOption (by decide +kernel)

end Client

/-- The version of an Agent that continues sessions. -/
def Version.Continues (version : Value) : Prop :=
  ∃ text current, version = .str text ∧ ofString text = .ok current ∧
    current.atLeast [0, 64, 32] = true

namespace Kit

/-- The settings that a request asks for: those that its session is started under, but only the
given ones if nothing is to be reported. -/
def Asks (site : Callsite) (request : ClientRequest) (asked : ReportSettings) : Prop :=
  if request.disableReports then request.settings = some asked
  else Client.Completes site request.settings asked

/-- The session of a client has the names that a request asks for, and its Agent can go on
with it. -/
structure Continues (site : Callsite) (request : ClientRequest) (client : Client) : Prop where
  names : ∃ held asked, client.settings = some held ∧ Asks site request asked ∧
    held.project = asked.project ∧ held.job = asked.job
  version : Version.Continues client.version

theorem requestedSettings_eq_iff {site : Callsite} {client : Client} {request : ClientRequest}
    {asked : ReportSettings} (hc : client.settings.isSome = true) (trail : Trail σ) :
    ((requestedSettings site client request).result.run trail).1 = .ok (some asked) ↔
      Asks site request asked := by
  unfold Asks
  split
  · rename_i hr
    rw [requestedSettings, hr, Bool.or_true, if_pos rfl]
    exact ⟨fun h => Except.ok.inj h, congrArg _⟩
  · rename_i hr
    have hagrees := requestedSettings_agrees (σ := σ) (τ := Unit) site hc
      (Bool.eq_false_iff.mpr hr) trail { outside := () }
    rw [hagrees, map_eq_pure_bind, Attempt.bind_eq_ok_iff]
    constructor
    · rintro ⟨_, h, ⟨⟩⟩
      exact h
    · exact fun h => ⟨_, h, rfl⟩

/-- The connection of a client is kept for a request if the Agent continues the session. -/
theorem keepsSocket_eq_true_iff {site : Callsite} {client : Client} {request : ClientRequest}
    (trail : Trail σ) :
    ((keepsSocket site client request).result.run trail).1 = .ok true ↔
      Continues site request client := by
  have hversion {t : Trail σ} :
      ((canReuse client).result.run t).1 = .ok true ↔ Version.Continues client.version :=
    Version.valueAtLeast_eq_true_iff client.version Client.ofString_reuseVersion
  rw [keepsSocket, Attempt.bind_eq_ok_iff]
  cases hs : client.settings with
  | none =>
    refine iff_of_false ?_ fun ⟨⟨_, _, h, _⟩, _⟩ => nomatch hs.symm.trans h
    rintro ⟨_, -, ⟨⟩⟩
  | some held =>
    have hsome : client.settings.isSome = true := by
      rw [hs]
      rfl
    constructor
    · rintro ⟨asked?, ha, h⟩
      cases asked? with
      | none => cases h
      | some asked =>
        dsimp only at h
        split at h
        · rename_i hsame
          obtain ⟨hp, hj⟩ := (Bool.and_eq_true _ _).mp hsame
          exact ⟨⟨held, asked, hs, (requestedSettings_eq_iff hsome trail).mp ha,
            beq_iff_eq.mp hp, beq_iff_eq.mp hj⟩, hversion.mp h⟩
        · cases h
    · rintro ⟨⟨held, asked, hheld, ha, hp, hj⟩, hv⟩
      obtain rfl := Option.some.inj (hs.symm.trans hheld)
      refine ⟨some asked, (requestedSettings_eq_iff hsome trail).mpr ha, ?_⟩
      dsimp only
      rw [ReportSettings.sameNames, hp, hj, beq_self_eq_true, beq_self_eq_true]
      exact hversion.mpr hv

end Kit

end AgentReporting
