import AgentReporting.Proofs.Kit.Keeping
import AgentReporting.Proofs.Recorder.Dialogue

/-! # What recorders leave alone

A recorder reaches the outside over its links only. A view of it that nothing changes there
stays as it is while commands are carried out and reported.
-/

namespace AgentReporting

variable {σ ρ : Type}

/-- Nothing that passes over the links changes the view. -/
structure Links.Spares (links : Links σ) (view : σ → ρ) : Prop where
  send : ∀ c, (links.send c).Keeps view
  submit : ∀ submit, links.submit = some submit → ∀ s, (submit s).Keeps view

variable {links : Links σ} {view : σ → ρ}

theorem Links.Spares.through {γ : Type} (h : links.Spares view) (f : ρ → γ) :
    links.Spares fun s => f (view s) where
  send c trail := congrArg f (h.send c trail)
  submit submit hs s trail := congrArg f (h.submit submit hs s trail)

theorem Links.Spares.hand (h : links.Spares view) (s : Submission) :
    (links.hand s).Keeps view := by
  unfold Links.hand
  cases hs : links.submit with
  | none => exact .answer _
  | some submit => exact h.submit submit hs s

theorem Dialogue.keeps (h : links.Spares view) {α : Type} (d : Dialogue α) :
    (d.run links).Keeps view := by
  induction d with
  | answer a => exact .answer a
  | ask c next ih => exact .seq (h.send c) ih
  | hand s next ih => exact .seq (h.hand s) ih
  | write line next ih => exact .seq (.write line) fun _ => ih

theorem Recording.Conducted.keeps {α : Type} {op : (σ : Type) → Links σ → Recording σ α}
    (ho : ∀ client, Recording.Conducted client op) (h : links.Spares view) :
    Stateful.Keeps view (op _ links) := by
  intro recorder
  obtain ⟨d, hd⟩ := ho links.submit.isSome recorder
  have hk := d.keeps h
  rwa [← hd _ links rfl] at hk

namespace Recorder

theorem clearStash_keeps (h : links.Spares view) : Stateful.Keeps view (clearStash links) :=
  Recording.Conducted.keeps (fun _ => clearStash_conducted) h

theorem execute_keeps (h : links.Spares view) (site : Callsite) (c : Command) (skip : Bool) :
    Stateful.Keeps view (execute links site c skip) :=
  Recording.Conducted.keeps (fun _ => execute_conducted site c skip) h

end Recorder

end AgentReporting
