import AgentReporting.Kit.Cache
import AgentReporting.Proofs.Running

/-! # What operations leave alone

Many operations leave a part of the outside as it is. Those that only write to the log or
take identifiers leave all of it; those that send requests leave what no request can reach.
-/

namespace AgentReporting

variable {σ τ α β ρ : Type}

/-- An act that leaves a view of the outside as it is. -/
def Act.Keeps (view : σ → ρ) (act : Act σ α) : Prop :=
  ∀ trail, view (act.run trail).2.outside = view trail.outside

def Attempt.Keeps (view : σ → ρ) (attempt : Attempt σ α) : Prop := attempt.result.Keeps view

theorem Act.Keeps.outside {act : Act σ α} (h : act.Keeps fun s => s) (trail : Trail σ) :
    (act.run trail).2.outside = trail.outside := h trail

theorem Attempt.Keeps.outside {attempt : Attempt σ α} (h : attempt.Keeps fun s => s)
    (trail : Trail σ) : (attempt.result.run trail).2.outside = trail.outside := h trail

variable {view : σ → ρ}

namespace Act.Keeps

theorem answer (a : α) : Act.Keeps view (Pure.pure a) := fun _ => rfl

theorem seq {act : Act σ α} {f : α → Act σ β} (h : act.Keeps view)
    (hf : ∀ a, (f a).Keeps view) : Act.Keeps view (act >>= f) := by
  intro trail
  exact (hf (act.run trail).1 (act.run trail).2).trans (h trail)

theorem ite {p : Prop} [Decidable p] {act other : Act σ α} (h : act.Keeps view)
    (ho : other.Keeps view) : Act.Keeps view (if p then act else other) := by
  split
  · exact h
  · exact ho

theorem write (line : LogLine) : (Act.write line).Keeps view := fun _ => rfl

theorem freshId : (Act.freshId).Keeps view := fun _ => rfl

end Act.Keeps

namespace Attempt.Keeps

theorem answer (a : α) : Attempt.Keeps view (Pure.pure a) := fun _ => rfl

theorem fault (fault : Fault) : Attempt.Keeps (α := α) view (throw fault) := fun _ => rfl

theorem lift {act : Act σ α} (h : act.Keeps view) : (Attempt.lift act).Keeps view := h

theorem ofResult {act : Act σ (Except Fault α)} (h : act.Keeps view) :
    (Attempt.ofResult act).Keeps view := h

theorem ofExcept (answer : Except Fault α) : (Attempt.ofExcept answer).Keeps view := fun _ => rfl

theorem seq {attempt : Attempt σ α} {f : α → Attempt σ β} (h : attempt.Keeps view)
    (hf : ∀ a, (f a).Keeps view) : Attempt.Keeps view (attempt >>= f) := by
  change Act.Keeps view (attempt.result >>= ExceptT.bindCont f)
  refine .seq h fun answer => ?_
  cases answer with
  | error fault => exact .answer _
  | ok a => exact hf a

theorem ite {p : Prop} [Decidable p] {attempt other : Attempt σ α} (h : attempt.Keeps view)
    (ho : other.Keeps view) : Attempt.Keeps view (if p then attempt else other) := by
  split
  · exact h
  · exact ho

theorem after (attempt : Attempt σ α) {f : α → Attempt σ β} (hf : ∀ a, (f a).Keeps view)
    (trail : Trail σ) : view ((attempt >>= f).result.run trail).2.outside =
      view (attempt.result.run trail).2.outside := by
  rw [run_bind]
  generalize attempt.result.run trail = done
  obtain ⟨answer, noted⟩ := done
  cases answer with
  | error fault => rfl
  | ok a => exact hf a noted

end Attempt.Keeps

/-! ## Operations with a state of their own -/

variable {κ : Type}

def Stateful.Keeps (view : σ → ρ) (op : StateT κ (Act σ) α) : Prop :=
  ∀ state, Act.Keeps view (op.run state)

namespace Stateful.Keeps

theorem answer (a : α) : Stateful.Keeps (κ := κ) view (pure a) := fun _ => .answer _

theorem seq {op : StateT κ (Act σ) α} {f : α → StateT κ (Act σ) β} (h : Stateful.Keeps view op)
    (hf : ∀ a, Stateful.Keeps view (f a)) : Stateful.Keeps view (op >>= f) :=
  fun state => .seq (h state) fun done => hf done.1 done.2

theorem ite {p : Prop} [Decidable p] {op other : StateT κ (Act σ) α} (h : Stateful.Keeps view op)
    (ho : Stateful.Keeps view other) : Stateful.Keeps view (if p then op else other) := by
  split
  · exact h
  · exact ho

theorem look : Stateful.Keeps (κ := κ) (σ := σ) view get := fun _ => .answer _

theorem put (state : κ) : Stateful.Keeps (κ := κ) (σ := σ) view (set state) := fun _ => .answer _

theorem change (f : κ → κ) : Stateful.Keeps (κ := κ) (σ := σ) view (modify f) :=
  fun _ => .answer _

theorem act {act : Act σ α} (h : act.Keeps view) :
    Stateful.Keeps (κ := κ) view (liftM act) :=
  fun _ trail => h trail

end Stateful.Keeps

/-! ## What operations answer -/

def Act.Gives (act : Act σ α) (P : α → Prop) : Prop := ∀ trail, P (act.run trail).1

def Attempt.Gives (attempt : Attempt σ α) (P : α → Prop) : Prop :=
  attempt.result.Gives fun answer => ∀ a, answer = .ok a → P a

namespace Act.Gives

variable {P : α → Prop} {Q : β → Prop}

theorem answer {a : α} (h : P a) : Act.Gives (σ := σ) (Pure.pure a) P := fun _ => h

theorem seq {act : Act σ α} {f : α → Act σ β} (h : act.Gives P)
    (hf : ∀ a, P a → (f a).Gives Q) : Act.Gives (act >>= f) Q :=
  fun trail => hf _ (h trail) _

theorem next {act : Act σ α} {f : α → Act σ β} (hf : ∀ a, (f a).Gives Q) :
    Act.Gives (act >>= f) Q :=
  fun _ => hf _ _

theorem ite {p : Prop} [Decidable p] {act other : Act σ α} (h : p → act.Gives P)
    (ho : ¬ p → other.Gives P) : Act.Gives (if p then act else other) P := by
  split
  · exact h ‹_›
  · exact ho ‹_›

end Act.Gives

namespace Attempt.Gives

variable {P : α → Prop} {Q : β → Prop}

theorem answer {a : α} (h : P a) : Attempt.Gives (σ := σ) (Pure.pure a) P := by
  rintro trail b hb
  cases hb
  exact h

theorem fault (fault : Fault) : Attempt.Gives (σ := σ) (throw fault) P :=
  fun _ _ h => nomatch h

theorem seq {attempt : Attempt σ α} {f : α → Attempt σ β} (h : attempt.Gives P)
    (hf : ∀ a, P a → (f a).Gives Q) : Attempt.Gives (attempt >>= f) Q := by
  change Act.Gives (attempt.result >>= ExceptT.bindCont f) _
  refine .seq h fun answer ha => ?_
  cases answer with
  | error fault => exact fun _ _ h => nomatch h
  | ok a => exact hf a (ha a rfl)

theorem next {attempt : Attempt σ α} {f : α → Attempt σ β} (hf : ∀ a, (f a).Gives Q) :
    Attempt.Gives (attempt >>= f) Q :=
  .seq (P := fun _ => True) (fun _ _ _ => trivial) fun a _ => hf a

theorem ite {p : Prop} [Decidable p] {attempt other : Attempt σ α} (h : attempt.Gives P)
    (ho : other.Gives P) : Attempt.Gives (if p then attempt else other) P := by
  split
  · exact h
  · exact ho

end Attempt.Gives

/-- What follows an attempt has to leave the view alone only for the answers that it can give. -/
theorem Attempt.Keeps.seq_of_gives {attempt : Attempt σ α} {f : α → Attempt σ β} {P : α → Prop}
    (h : attempt.Keeps view) (hg : attempt.Gives P) (hf : ∀ a, P a → (f a).Keeps view) :
    Attempt.Keeps view (attempt >>= f) := by
  intro trail
  have hkeeps := h trail
  have hgives := hg trail
  rw [run_bind]
  generalize attempt.result.run trail = done at hkeeps hgives ⊢
  obtain ⟨answer, noted⟩ := done
  cases answer with
  | error fault => exact hkeeps
  | ok a => exact (hf a (hgives a rfl) noted).trans hkeeps

/-! ## Operations that only write to the log -/

/-- An act that gives the same answer everywhere, and only adds lines to the log. -/
def Act.Quiet (act : Act σ α) : Prop :=
  ∃ a lines, ∀ trail, act.run trail = (a, { trail with log := trail.log ++ lines })

def Attempt.Quiet (attempt : Attempt σ α) : Prop := attempt.result.Quiet

namespace Act.Quiet

theorem answer (a : α) : Act.Quiet (σ := σ) (Pure.pure a) :=
  ⟨a, [], fun trail => by rw [List.append_nil, Act.run_pure]⟩

theorem seq {act : Act σ α} {f : α → Act σ β} (h : act.Quiet) (hf : ∀ a, (f a).Quiet) :
    (act >>= f).Quiet := by
  obtain ⟨a, lines, ha⟩ := h
  obtain ⟨b, more, hb⟩ := hf a
  exact ⟨b, lines ++ more, fun trail => by rw [Act.run_bind, ha, hb, List.append_assoc]⟩

theorem ite {p : Prop} [Decidable p] {act other : Act σ α} (h : act.Quiet) (ho : other.Quiet) :
    (if p then act else other).Quiet := by
  split
  · exact h
  · exact ho

theorem write (line : LogLine) : (Act.write (σ := σ) line).Quiet := ⟨(), [line], fun _ => rfl⟩

variable {act : Act σ α} (h : act.Quiet)

include h

theorem keeps : act.Keeps view := by
  obtain ⟨a, lines, ha⟩ := h
  intro trail
  rw [ha]

theorem same (trail other : Trail σ) : (act.run trail).1 = (act.run other).1 := by
  obtain ⟨a, lines, ha⟩ := h
  rw [ha, ha]

end Act.Quiet

namespace Attempt.Quiet

theorem answer (a : α) : Attempt.Quiet (σ := σ) (Pure.pure a) := Act.Quiet.answer _

theorem fault (fault : Fault) : Attempt.Quiet (σ := σ) (α := α) (throw fault) :=
  Act.Quiet.answer _

theorem ofExcept (answer : Except Fault α) : (Attempt.ofExcept (σ := σ) answer).Quiet :=
  Act.Quiet.answer _

theorem lift {act : Act σ α} (h : act.Quiet) : (Attempt.lift act).Quiet :=
  Act.Quiet.seq h fun _ => .answer _

theorem seq {attempt : Attempt σ α} {f : α → Attempt σ β} (h : attempt.Quiet)
    (hf : ∀ a, (f a).Quiet) : (attempt >>= f).Quiet := by
  change Act.Quiet (attempt.result >>= ExceptT.bindCont f)
  refine .seq h fun answer => ?_
  cases answer with
  | error fault => exact .answer _
  | ok a => exact hf a

theorem ite {p : Prop} [Decidable p] {attempt other : Attempt σ α} (h : attempt.Quiet)
    (ho : other.Quiet) : (if p then attempt else other).Quiet := by
  split
  · exact h
  · exact ho

theorem keeps {attempt : Attempt σ α} (h : attempt.Quiet) : attempt.Keeps view := Act.Quiet.keeps h

end Attempt.Quiet

/-! ## Operations that answer alike in every world -/

/-- Wherever the two attempts are made, they give the same answer. -/
def Attempt.Agrees (attempt : Attempt σ α) (other : Attempt τ α) : Prop :=
  ∀ trail trail', (attempt.result.run trail).1 = (other.result.run trail').1

namespace Attempt.Agrees

variable {attempt : Attempt σ α} {other : Attempt τ α}

theorem answer (a : α) : Attempt.Agrees (pure a : Attempt σ α) (pure a : Attempt τ α) :=
  fun _ _ => rfl

theorem fault (fault : Fault) :
    Attempt.Agrees (throw fault : Attempt σ α) (throw fault : Attempt τ α) := fun _ _ => rfl

theorem write (line : LogLine) : Attempt.Agrees (.lift (Act.write line) : Attempt σ Unit)
    (.lift (Act.write line) : Attempt τ Unit) := fun _ _ => rfl

theorem seq {f : α → Attempt σ β} {g : α → Attempt τ β} (h : attempt.Agrees other)
    (hf : ∀ a, (f a).Agrees (g a)) : Attempt.Agrees (attempt >>= f) (other >>= g) := by
  intro trail trail'
  have ha := h trail trail'
  rw [run_bind, run_bind]
  generalize attempt.result.run trail = done at ha
  generalize other.result.run trail' = done' at ha
  obtain ⟨answer, after⟩ := done
  obtain ⟨_, after'⟩ := done'
  obtain rfl := ha
  cases answer with
  | error fault => rfl
  | ok a => exact hf a after after'

theorem ite {p : Prop} [Decidable p] {next : Attempt σ α} {next' : Attempt τ α}
    (h : attempt.Agrees other) (hn : next.Agrees next') :
    Attempt.Agrees (if p then attempt else next) (if p then other else next') := by
  split
  · exact h
  · exact hn

end Attempt.Agrees

/-! ## Names and versions -/

theorem Config.ofEnvironment_quiet (env : Environment) : (ofEnvironment (σ := σ) env).Quiet := by
  unfold ofEnvironment
  refine .seq ?_ fun size => .answer _
  unfold batchSize
  split
  · split
    · exact .answer _
    · exact .seq (.write _) fun _ => .answer _
  · exact .answer _

@[simp] theorem Config.ofEnvironment_outside (env : Environment) (trail : Trail σ) :
    ((ofEnvironment env).run trail).2.outside = trail.outside :=
  (ofEnvironment_quiet env).keeps.outside trail

namespace Naming

theorem scriptSettings_quiet (site : Callsite) : (scriptSettings (σ := σ) site).Quiet := by
  unfold scriptSettings
  split
  · exact .lift (.seq (.write _) fun _ => .answer _)
  · exact .ite (.lift (.seq (.write _) fun _ => .answer _)) (.ite (.fault _) (.answer _))

theorem settings_quiet (site : Callsite) : (settings (σ := σ) site).Quiet := by
  have hby : (settingsBy (σ := σ) (strategy site) site).Quiet := by
    unfold settingsBy
    split
    · exact .answer _
    · exact .ofExcept _
    · exact .seq (scriptSettings_quiet site) fun _ => .answer _
  refine .seq hby fun found => ?_
  cases found with
  | none => exact scriptSettings_quiet site
  | some found => exact .ite (.answer _) (scriptSettings_quiet site)

theorem scriptSettings_agrees (site : Callsite) :
    (scriptSettings (σ := σ) site).Agrees (scriptSettings (σ := τ) site) := by
  unfold scriptSettings
  split
  · exact .seq (.write _) fun _ => .answer _
  · exact .ite (.seq (.write _) fun _ => .answer _) (.ite (.fault _) (.answer _))

theorem settings_agrees (site : Callsite) :
    (settings (σ := σ) site).Agrees (settings (σ := τ) site) := by
  have hby : (settingsBy (σ := σ) (strategy site) site).Agrees
      (settingsBy (σ := τ) (strategy site) site) := by
    unfold settingsBy
    split
    · exact .answer _
    · exact fun _ _ => rfl
    · exact .seq (scriptSettings_agrees site) fun _ => .answer _
  refine .seq hby fun found => ?_
  cases found with
  | none => exact scriptSettings_agrees site
  | some found => exact .ite (.answer _) (scriptSettings_agrees site)

end Naming

theorem Version.valueAtLeast_quiet (version : Value) (minimum : String) :
    (valueAtLeast (σ := σ) version minimum).Quiet := by
  unfold valueAtLeast
  split
  · refine .lift ?_
    unfold textAtLeast
    refine .ite (.answer _) ?_
    dsimp only
    split
    · exact .answer _
    · exact .seq (.write _) fun _ => .answer _
  · exact .ite (.fault _) (.answer _)

theorem Kit.keepsSocket_quiet (site : Callsite) (client : Client) (request : ClientRequest) :
    (keepsSocket (σ := σ) site client request).Quiet := by
  have hsettings : (requestedSettings (σ := σ) site client request).Quiet :=
    .ite (.answer _) (.ite (.answer _)
      (.seq (Naming.settings_quiet site) fun _ => .answer _))
  unfold keepsSocket
  refine .seq hsettings fun wanted => ?_
  split
  · exact .ite (Version.valueAtLeast_quiet _ _) (.answer _)
  · exact .answer _

theorem Capabilities.track_keeps (caps : Capabilities) : (track caps).Keeps view :=
  .ite (.answer _) (.seq .freshId fun _ => .answer _)

end AgentReporting
