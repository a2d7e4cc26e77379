import AgentReporting.Proofs.Recorder.Keys
import AgentReporting.Proofs.Recorder.Sites
import AgentReporting.Proofs.Recorder.Unseen
import AgentReporting.Scripted.Links

/-! # Masking of typed secrets

A command is masked in its report where the lookups made for that report identify a
secure field. They are made when the report is, not when the command is sent, so a field
that the server would have identified in time may no longer be identified.
-/

namespace AgentReporting

namespace Redaction

/-- One command shows the mask where another typed its text, and is like it otherwise. -/
structure Hides (shown typed : Command) : Prop where
  session : shown.sessionId = typed.sessionId
  name : shown.name = typed.name
  parameters : typed.parameters.isDict = true → ∀ key, shown.parameters.field? key =
    if key = "text" ∨ key = "value" then some (.str "***") else typed.parameters.field? key

theorem masked_hides (c : Command) : Hides (masked c) c where
  session := rfl
  name := rfl
  parameters h key := by
    have hm : ∀ fields : Entries Value,
        Entries.get? (Entries.merge fields [("text", mask), ("value", mask)]) key =
          if key = "text" ∨ key = "value" then some (.str "***")
          else Entries.get? fields key := by
      intro fields
      simp only [Entries.merge, List.foldl_cons, List.foldl_nil, Entries.get?_put, mask]
      by_cases hv : key = "value"
      · simp [hv]
      · by_cases ht : key = "text" <;> simp [hv, ht]
    obtain ⟨session, name, parameters⟩ := c
    cases parameters with
    | dict fields => exact hm fields
    | paired value fields => exact hm fields
    | _ => simp [Value.isDict, Value.fields?] at h

end Redaction

namespace Moment

open Redaction

variable {σ : Type} (links : Links σ) (m : Moment σ)

/-- A command report is that of an attempt made before, right after the lookups made for
it. It shows the mask in place of the text if they identify a secure field, and the command
as it was typed if they do not. -/
def Inquired (calls : List (Call σ)) (before : List Event) : Submission → Prop
  | .command c result passed shot => ∃ (a : Attempted) (number : Nat) (site : Callsite),
    (m.turns links calls)[number]? = some (.executed site a.command false (.ok a.response) true) ∧
      result = a.response.result ∧ passed = a.response.isPassed ∧ shot = .null ∧
      ∃ earlier lookups secret, before = earlier ++ lookups ∧
        .sent a.command (.ok a.response) ∈ earlier ∧
        Inquiry m.recorder.capabilities a.command lookups secret ∧
        if secret then Hides c a.command else c = a.command
  | _ => True

/-- Whatever the server does, each report of a history is masked as the lookups made for it
tell. -/
theorem reports_follow_lookups (hs : m.recorder.stash = [])
    (hr : m.recorder.switches.redactionDisabled = false) (calls : List (Call σ))
    {before after : List Event} {s : Submission}
    (he : before ++ .handed s :: after = (m.watch links calls).events) :
    m.Inquired links calls before s := by
  obtain ⟨-, -, events, hev, hsh⟩ := follows_watch links m calls hs
  rw [events_watched, List.nil_append] at hev
  rw [← hev, ← he] at hsh
  obtain ⟨f, earlier, lookups, pre, post, hf, rfl, hpre, -, -, hh⟩ := hsh.handed
  cases hh with
  | test name => trivial
  | step report => trivial
  | @attempt a lookups secret hl =>
    rcases Book.origin hf.symm with hn | ⟨ns, note, ns', hn, ha, hp⟩
    · cases hn
    · have hm : note ∈ m.history links calls := by rw [hn]; simp
      obtain ⟨k, site, -, -, hk⟩ := Turn.turn_of_mem_history hm ha
      have hsent : .sent a.attempt.command (.ok a.attempt.response) ∈ earlier :=
        hpre.mem_sent (hp.subset (Book.mem_filings_sent (Turn.sent_before hn.symm ha)))
      refine ⟨a.attempt, k, site, hk, rfl, rfl, rfl, earlier, lookups, secret, rfl, hsent, ?_⟩
      cases hl with
      | off hd => cases hr.symm.trans hd
      | made _ hi =>
        refine ⟨hi, ?_⟩
        cases secret with
        | true => exact masked_hides a.attempt.command
        | false => rfl

def passwordTyped : Command :=
  { sessionId := .str "session-1", name := Command.sendKeysToElement
    parameters := .dict [("id", .str "e1"), ("text", .str "hunter2"), ("value", .str "hunter2")] }

def passwordField : Response := ⟨.null, Response.success, .null, .str "password", .null⟩

theorem report_of_password_follows_lookups :
    let links := ScriptedLinks.links true
    let server : ScriptedLinks := { responses := [(Command.elementAttribute, [.ok passwordField])] }
    let m : Moment ScriptedLinks := ⟨{}, { outside := server }⟩
    let calls : List (Call ScriptedLinks) := [.execute (.within []) passwordTyped false]
    let report : Submission := .command (masked passwordTyped) .null true .null
    let before : List Event := [.sent passwordTyped (.ok (Response.done passwordTyped)),
      .sent (askAttribute passwordTyped (.str "e1") "type")
        (.ok { passwordField with sessionId := .str "session-1" })]
    before ++ .handed report :: [] = (m.watch links calls).events ∧
      m.Inquired links calls before report := by
  intro links server m calls report before
  have he : before ++ .handed report :: [] = (m.watch links calls).events := rfl
  exact ⟨he, reports_follow_lookups links m rfl rfl calls he⟩

/-- A server that tells a password field once, and is out of reach from then on. -/
def forgetfulServer : ScriptedLinks :=
  { responses := [(Command.elementAttribute, [.ok passwordField,
    .error (.foreign .connection "gone")])] }

/-- The field is identified as secure when the text is typed, but no longer when the stashed
attempt is reported. -/
theorem forgotten_secret_is_reported :
    let links := ScriptedLinks.links true
    let m : Moment ScriptedLinks :=
      ⟨{ switches := { testsDisabled := true } }, { outside := forgetfulServer }⟩
    let question := askAttribute passwordTyped (.str "e1") "type"
    ((targetsSecret links.send m.recorder.capabilities passwordTyped).result.run m.trail).1 =
        .ok true ∧
      (m.watch links [.execute (.within [.wait]) passwordTyped false,
        .execute (.within []) question false]).events[3]? =
        some (.handed (.command passwordTyped .null true .null)) := by
  intro links m question
  have hp : passwordTyped.Plain :=
    ⟨.inr ⟨_, rfl⟩, .dict (by decide) (by simp [Value.Exact.str])⟩
  refine ⟨rfl, ?_⟩
  rw [watch, play, List.map_cons, List.foldl_cons, Call.watched,
    performed_inside_wait links.watched m.watched rfl rfl rfl hp.structuralKey]
  rfl

end Moment

end AgentReporting
