import AgentReporting.Trail

/-! # Running operations

An operation is run on a trail, and gives an answer and the trail that it leaves. What
is run in sequence is run on the trail that the first part left.
-/

namespace AgentReporting

variable {σ α β : Type}

theorem isOk_map {ε : Type} (f : α → β) (answer : Except ε α) :
    (answer.map f).isOk = answer.isOk := by
  cases answer <;> rfl

theorem map_eq_ok_iff {ε : Type} {f : α → β} {answer : Except ε α} {b : β} :
    answer.map f = .ok b ↔ ∃ a, answer = .ok a ∧ f a = b := by
  cases answer <;> simp [Except.map]

theorem map_eq_error_iff {ε : Type} {f : α → β} {answer : Except ε α} {e : ε} :
    answer.map f = .error e ↔ answer = .error e := by
  cases answer <;> simp [Except.map]

@[simp] theorem Act.run_bind (act : Act σ α) (f : α → Act σ β) (trail : Trail σ) :
    (act >>= f).run trail = (f (act.run trail).1).run (act.run trail).2 := rfl

@[simp] theorem Act.run_pure (a : α) (trail : Trail σ) :
    (pure a : Act σ α).run trail = (a, trail) := rfl

@[simp] theorem Act.run_getOutside (trail : Trail σ) :
    Act.getOutside.run trail = (trail.outside, trail) := rfl

@[simp] theorem Act.run_modifyOutside (f : σ → σ) (trail : Trail σ) :
    (Act.modifyOutside f).run trail = ((), { trail with outside := f trail.outside }) := rfl

@[simp] theorem Attempt.run_pure (a : α) (trail : Trail σ) :
    (pure a : Attempt σ α).result.run trail = (.ok a, trail) := rfl

@[simp] theorem Attempt.run_lift (act : Act σ α) (trail : Trail σ) :
    (Attempt.lift act).result.run trail = (.ok (act.run trail).1, (act.run trail).2) := rfl

@[simp] theorem Attempt.run_ofExcept (answer : Except Fault α) (trail : Trail σ) :
    (Attempt.ofExcept answer).result.run trail = (answer, trail) := rfl

theorem Attempt.run_bind (attempt : Attempt σ α) (f : α → Attempt σ β) (t : Trail σ) :
    (attempt >>= f).result.run t =
      match attempt.result.run t with
      | (.error fault, t) => (.error fault, t)
      | (.ok a, t) => (f a).result.run t := by
  change StateT.run (attempt.run >>= ExceptT.bindCont f) t = _
  rw [StateT.run_bind]
  change (ExceptT.bindCont f (attempt.result.run t).1).run (attempt.result.run t).2 = _
  obtain ⟨answer, t⟩ := attempt.result.run t
  cases answer <;> rfl

theorem Attempt.run_bind_of_ok {attempt : Attempt σ α} {t : Trail σ} {a : α}
    (h : (attempt.result.run t).1 = .ok a) (f : α → Attempt σ β) :
    (attempt >>= f).result.run t = (f a).result.run (attempt.result.run t).2 := by
  rw [run_bind]
  split
  · simp_all
  · simp_all

theorem Attempt.bind_eq_ok_iff {attempt : Attempt σ α} {f : α → Attempt σ β} {t : Trail σ} {b : β} :
    ((attempt >>= f).result.run t).1 = .ok b ↔ ∃ a, (attempt.result.run t).1 = .ok a ∧
      ((f a).result.run (attempt.result.run t).2).1 = .ok b := by
  rw [run_bind]
  split
  · simp_all
  · simp_all

theorem Attempt.run_discard (attempt : Attempt σ α) (trail : Trail σ) :
    ((discard attempt).result.run trail).2 = (attempt.result.run trail).2 := by
  have hd : discard attempt = attempt >>= fun _ => pure () := map_eq_pure_bind _ attempt
  rw [hd, run_bind]
  split <;> simp only [*, run_pure]

theorem eq_ok_of_toOption {answer : Except Fault α} {a : α} (h : answer.toOption = some a) :
    answer = .ok a := by
  cases answer with
  | error fault => cases h
  | ok b =>
    cases h
    rfl

end AgentReporting
