import AgentReporting.Proofs.Recorder.Watching
import AgentReporting.Proofs.Running

/-! # Inquiries about secure fields

Before a command is reported, the automation server is asked whether the command typed
into a secure field. What was asked and answered decides whether the text is masked.
-/

namespace AgentReporting

variable {σ α β : Type}

namespace Redaction

theorem eq_of_disguise {secret : Bool} {c shown : Command} (h : disguise secret c = .ok shown) :
    shown = if secret then masked c else c := by
  cases secret with
  | true => exact (Fault.orOk_eq_ok_iff.mp h).2.symm
  | false => exact (Except.ok.inj h).symm

/-- A command cannot be disguised only where it is a secret of which no copy can be made. -/
theorem disguise_eq_error_iff {secret : Bool} {c : Command} {fault : Fault} :
    disguise secret c = .error fault ↔ secret = true ∧ c.copyFault? = some fault := by
  cases secret with
  | true => simp [disguise, Fault.orOk_eq_error_iff]
  | false => simp [disguise]

section Exchange

variable (caps : Capabilities) (c : Command)

inductive Targeted : List Event → Except Fault Value → Prop where
  | named : c.name = Command.sendKeysToElement → Targeted [] (.ok (c.parameters.get "id"))
  | focused (answer : Except Fault Response) : c.name ≠ Command.sendKeysToElement →
      Targeted [.sent (askActive c) answer] (answer.map fun r => elementId (valueIfPassed r))

inductive Judged : List Event → Except Fault Bool → Prop where
  | lost {events : List Event} {fault : Fault} : Targeted c events (.error fault) →
      Judged events (.error fault)
  | nowhere {events : List Event} {id : Value} : Targeted c events (.ok id) →
      id.truthy = false → Judged events (.ok false)
  | asked {events : List Event} {id : Value} (answer : Except Fault Response) :
      Targeted c events (.ok id) → id.truthy = true →
      Judged (events ++ [.sent (askAttribute c id (secureAttribute caps)) answer])
        (answer.map fun r => saysSecure caps (valueIfPassed r))

/-- The lookups for one command, and whether they identify a secure field. A lookup that
fails identifies nothing. -/
inductive Inquiry : List Event → Bool → Prop where
  | spared : isRedactable c = false → Inquiry [] false
  | secure {events : List Event} : isRedactable c = true → Judged caps c events (.ok true) →
      Inquiry events true
  | plain {events : List Event} : isRedactable c = true → Judged caps c events (.ok false) →
      Inquiry events false
  | failed {events : List Event} {fault : Fault} : isRedactable c = true →
      Judged caps c events (.error fault) → Inquiry events false

inductive Asks : Event → Prop where
  | focus (answer : Except Fault Response) : Asks (.sent (askActive c) answer)
  | field (id : Value) (name : String) (answer : Except Fault Response) :
      Asks (.sent (askAttribute c id name) answer)

variable {caps c} {events : List Event} {s : Submission}

theorem Targeted.asks {id : Except Fault Value} (h : Targeted c events id) :
    ∀ event ∈ events, Asks c event := by
  cases h with
  | named => exact nofun
  | focused answer => simpa using Asks.focus answer

theorem Judged.asks {verdict : Except Fault Bool} (h : Judged caps c events verdict) :
    ∀ event ∈ events, Asks c event := by
  cases h with
  | lost ht => exact ht.asks
  | nowhere ht => exact ht.asks
  | asked answer ht =>
    intro event he
    rcases List.mem_append.mp he with he | he
    · exact ht.asks event he
    · rw [List.mem_singleton.mp he]
      exact .field ..

theorem Inquiry.asks {secret : Bool} (h : Inquiry caps c events secret) :
    ∀ event ∈ events, Asks c event := by
  cases h with
  | spared => exact nofun
  | secure _ hj => exact hj.asks
  | plain _ hj => exact hj.asks
  | failed _ hj => exact hj.asks

end Exchange

variable (links : Links σ) (caps : Capabilities) (c : Command) (t : Trail (Watched σ))

theorem target_told : ∃ lookups,
    Targeted c lookups ((target links.watched.send c).result.run t).1 ∧
      ((target links.watched.send c).result.run t).2.events = t.events ++ lookups := by
  by_cases hn : c.name = Command.sendKeysToElement
  · have ht : target links.watched.send c = pure (c.parameters.get "id") := by
      simp [target, hn]
    rw [ht]
    exact ⟨[], .named hn, (List.append_nil _).symm⟩
  · have ht : target links.watched.send c =
        links.watched.send (askActive c) >>= fun r => pure (elementId (valueIfPassed r)) := by
      simp [target, hn]
    rw [ht, Attempt.run_bind]
    have he := events_send links t (askActive c)
    generalize (links.watched.send (askActive c)).result.run t = done at he
    obtain ⟨answer, after⟩ := done
    refine ⟨[.sent (askActive c) answer], ?_⟩
    cases answer with
    | error fault => exact ⟨.focused (.error fault) hn, he⟩
    | ok r => exact ⟨.focused (.ok r) hn, he⟩

theorem targetsSecret_told : ∃ lookups,
    Judged caps c lookups ((targetsSecret links.watched.send caps c).result.run t).1 ∧
      ((targetsSecret links.watched.send caps c).result.run t).2.events =
        t.events ++ lookups := by
  obtain ⟨lookups, hl, he⟩ := target_told links c t
  rw [targetsSecret, Attempt.run_bind]
  generalize (target links.watched.send c).result.run t = found at hl he
  obtain ⟨found, after⟩ := found
  cases found with
  | error fault => exact ⟨lookups, .lost hl, he⟩
  | ok id =>
    cases hid : id.truthy with
    | false =>
      simp only [hid, Bool.not_false, if_true]
      exact ⟨lookups, .nowhere hl hid, he⟩
    | true =>
      have ha := events_send links after (askAttribute c id (secureAttribute caps))
      simp only [hid, Bool.not_true, Bool.false_eq_true, if_false, Attempt.run_bind]
      generalize (links.watched.send (askAttribute c id _)).result.run after = done at ha
      obtain ⟨answer, last⟩ := done
      refine ⟨lookups ++ [.sent (askAttribute c id (secureAttribute caps)) answer], ?_⟩
      rw [← List.append_assoc, ← he]
      cases answer with
      | error fault => exact ⟨.asked (.error fault) hl hid, ha⟩
      | ok r => exact ⟨.asked (.ok r) hl hid, ha⟩

theorem hidesText_told : ∃ lookups,
    Inquiry caps c lookups ((hidesText links.watched.send caps c).run t).1 ∧
      ((hidesText links.watched.send caps c).run t).2.events = t.events ++ lookups := by
  rw [hidesText]
  cases hr : isRedactable c with
  | false => exact ⟨[], .spared hr, (List.append_nil _).symm⟩
  | true =>
    obtain ⟨lookups, hj, he⟩ := targetsSecret_told links caps c t
    simp only [Bool.not_true, Bool.false_eq_true, if_false, StateT.run_bind]
    generalize (targetsSecret links.watched.send caps c).result.run t = done at hj he
    obtain ⟨verdict, after⟩ := done
    refine ⟨lookups, ?_⟩
    cases verdict with
    | error fault => exact ⟨.failed hr hj, he⟩
    | ok secret =>
      cases secret with
      | false => exact ⟨.plain hr hj, he⟩
      | true => exact ⟨.secure hr hj, he⟩

/-- A command is masked for its report where the lookups identify a secure field. -/
theorem redact_told : ∃ lookups secret, Inquiry caps c lookups secret ∧
    ((redact links.watched.send caps c).run t).1 = disguise secret c ∧
      ((redact links.watched.send caps c).run t).2.events = t.events ++ lookups := by
  obtain ⟨lookups, hi, he⟩ := hidesText_told links caps c t
  exact ⟨lookups, _, hi, rfl, he⟩

end Redaction

end AgentReporting
