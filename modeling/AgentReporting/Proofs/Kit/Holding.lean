import AgentReporting.Proofs.Kit.Requests

/-! # A connection that is held

A network tells whether its connection is open. A handshake that fails leaves it as it was,
since it is opened last, and the open client closes it or leaves it when it is closed itself.
-/

namespace AgentReporting

variable {σ τ α β ρ : Type}

/-! ## Attempts that change nothing when they fail -/

def Attempt.Reverts (view : σ → ρ) (attempt : Attempt σ α) : Prop :=
  ∀ trail fault, (attempt.result.run trail).1 = .error fault →
    view (attempt.result.run trail).2.outside = view trail.outside

def Attempt.Succeeds (attempt : Attempt σ α) : Prop :=
  ∀ trail, ∃ a, (attempt.result.run trail).1 = .ok a

namespace Attempt

variable {view : σ → ρ}

theorem Keeps.reverts {attempt : Attempt σ α} (h : attempt.Keeps view) : attempt.Reverts view :=
  fun trail _ _ => h trail

namespace Reverts

theorem seq {attempt : Attempt σ α} {f : α → Attempt σ β} (h : attempt.Keeps view)
    (hf : ∀ a, (f a).Reverts view) : Attempt.Reverts view (attempt >>= f) := by
  intro trail fault he
  have hkeeps := h trail
  change view (attempt.result.run trail).2.outside = _ at hkeeps
  rw [run_bind] at he ⊢
  generalize attempt.result.run trail = done at he hkeeps ⊢
  obtain ⟨answer, noted⟩ := done
  cases answer with
  | error cause => exact hkeeps
  | ok a => exact (hf a noted fault he).trans hkeeps

theorem before {attempt : Attempt σ α} {f : α → Attempt σ β} (h : attempt.Reverts view)
    (hf : ∀ a, (f a).Succeeds) : Attempt.Reverts view (attempt >>= f) := by
  intro trail fault he
  have hreverts := h trail
  rw [run_bind] at he ⊢
  generalize attempt.result.run trail = done at he hreverts ⊢
  obtain ⟨answer, noted⟩ := done
  cases answer with
  | error cause => exact hreverts cause rfl
  | ok a =>
    obtain ⟨b, hb⟩ := hf a noted
    rw [hb] at he
    cases he

theorem ite {p : Prop} [Decidable p] {attempt other : Attempt σ α} (h : attempt.Reverts view)
    (ho : other.Reverts view) : Attempt.Reverts view (if p then attempt else other) := by
  split
  · exact h
  · exact ho

end Reverts

end Attempt

/-! ## A connection that is opened and closed -/

/-- The network tells whether its connection is open: requests leave it as it is, a failed
attempt to open it too, and it can always be closed. -/
structure Network.Holds (net : Network σ) (connected : σ → Bool) : Prop where
  spares : net.Spares connected
  opening : ∀ host port, (net.openSocket host port).Reverts connected
  closing : ∀ trail, connected (net.closeSocket.run trail).2.outside = false

namespace Liveness

theorem run_lift_bind (act : Act τ α) (f : α → StateT Liveness (Act τ) β) (liveness : Liveness)
    (trail : Trail τ) : ((liftM act >>= f).run liveness).run trail =
      ((f (act.run trail).1).run liveness).run (act.run trail).2 := rfl

theorem connect_reverts (dial : String → Int → Act τ (Option String)) (host : String) (port : Int)
    (liveness : Liveness) (trail : Trail τ) (fault : Fault)
    (hf : (((connect dial host port).run liveness).run trail).1.1 = .error fault) :
    (((connect dial host port).run liveness).run trail).1.2 = liveness := by
  simp only [connect, StateT.run_bind, StateT.run_get, pure_bind] at hf ⊢
  split
  · rfl
  · rename_i ho
    rw [if_neg ho, run_lift_bind] at hf
    rw [run_lift_bind]
    generalize (dial host port).run trail = dialled at hf ⊢
    obtain ⟨reason?, noted⟩ := dialled
    cases reason? with
    | none => cases hf
    | some reason => rfl

theorem disconnect_closes (hangUp : Act τ (Option String)) (liveness : Liveness)
    (trail : Trail τ) : (((disconnect hangUp).run liveness).run trail).1.2.isOpen = false := by
  simp only [disconnect, StateT.run_bind, StateT.run_get, pure_bind]
  split
  · rename_i hc
    exact Bool.not_eq_true' _ ▸ hc
  · rw [run_lift_bind]
    generalize hangUp.run trail = hung
    obtain ⟨reason?, noted⟩ := hung
    cases reason? with
    | none => rfl
    | some reason => rfl

end Liveness

theorem Network.live_holds (http : HttpRequest → StateM τ (Except Fault HttpAnswer))
    (automate : WireCommand → StateM τ (Except Fault Value))
    (dial : String → Int → Act τ (Option String)) (hangUp : Act τ (Option String)) :
    (live http automate dial hangUp).Holds fun held => held.liveness.isOpen where
  spares _ _ := rfl
  opening host port trail fault hf := by
    have h := Liveness.connect_reverts dial host port trail.outside.liveness
      { trail with outside := trail.outside.world } fault hf
    exact congrArg Liveness.isOpen h
  closing trail := Liveness.disconnect_closes hangUp trail.outside.liveness
    { trail with outside := trail.outside.world }

/-- A client that is closed reaches the outside by its last reports, and by what it does to the
connection if it closes that. -/
theorem Client.view_close {net : Network σ} {view : σ → ρ} (hnet : net.SparesPrompt view)
    {f : ρ → ρ} {client : Client} {closeSocket : Bool} (ho : client.closed = false)
    (hclose : closeSocket = true → ∀ trail,
      view (net.closeSocket.run trail).2.outside = f (view trail.outside)) (trail : Trail σ) :
    view ((client.close net closeSocket).run trail).2.outside =
      if closeSocket then f (view trail.outside) else view trail.outside := by
  have hstopped := stopWorker_keeps hnet { client with closed := true } trail
  unfold close
  rw [if_neg (by rw [ho]; exact Bool.false_ne_true), Act.run_bind, ← hstopped]
  cases closeSocket with
  | true => exact hclose rfl _
  | false => rfl

section

variable {net : Network σ} {connected : σ → Bool} (hnet : net.Holds connected)

include hnet

namespace Client

theorem openSocket_reverts (address : String) (port : Value) :
    (openSocket net address port).Reverts connected :=
  .ite (Attempt.Keeps.answer _).reverts (.seq (.ofExcept _) fun _ => hnet.opening _ _)

theorem startSession_reverts (site : Callsite) (channel : Channel) (config : Config)
    (caps : Capabilities) (settings : Option ReportSettings) :
    (startSession net site channel config caps settings).Reverts connected := by
  refine .seq (.lift (.write _)) fun _ => ?_
  refine .seq (checkVersion_keeps hnet.spares.prompt _ _ _) fun _ => ?_
  split
  · refine .seq (requestSession_keeps (hnet.spares _) _) fun answer => ?_
    refine .seq (answerFields_keeps _) fun data => .seq (sessionIn_keeps _ _) fun session => ?_
    refine .seq (.lift (.write _)) fun _ => .seq (showWarnings_keeps _) fun _ => ?_
    exact .before (openSocket_reverts hnet _ _) fun _ _ => ⟨_, rfl⟩
  · exact (Attempt.Keeps.fault _).reverts

theorem start_reverts (site : Callsite) (config : Config) (address token : String)
    (request : ClientRequest) :
    (start net site config address token request).Reverts connected := by
  rw [start_eq]
  refine .seq (settingsFor_keeps site token request) fun settings => ?_
  exact .before (startSession_reverts hnet site _ config _ settings) fun _ _ => ⟨_, rfl⟩

theorem close_disconnects (client : Client) (ho : client.closed = false) (trail : Trail σ) :
    connected ((client.close net true).run trail).2.outside = false :=
  view_close hnet.spares.prompt (f := fun _ => false) ho (fun _ => hnet.closing) trail

end Client

end

end AgentReporting
