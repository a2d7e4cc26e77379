import AgentReporting.Proofs.Recorder.Book
import AgentReporting.Proofs.Recorder.Inquiry
import Mathlib.Data.List.Forall2

/-! # How filings show

Each filing shows as one block of events: a report is the last event of its block, after
the lookups made for it, and reports that are not taken show as nothing at all. Of a report
that cannot be made only the lookups show.
-/

namespace AgentReporting

/-- An attempt, and the number of the call that made it. -/
structure Numbered where
  number : Nat
  attempt : Attempted

def Attempted.submission (a : Attempted) (secret : Bool) : Submission :=
  .command (if secret then Redaction.masked a.command else a.command) a.response.result
    a.response.isPassed .null

/-- A submission reports an attempt, masked or not; only text that was typed is masked. -/
def Numbered.ReportedAs (a : Numbered) (s : Submission) : Prop :=
  ∃ secret, s = a.attempt.submission secret ∧
    (secret = true → Redaction.isRedactable a.attempt.command = true)

def Event.submission? : Event → Option Submission
  | .handed s => some s
  | .sent _ _ => none

def Event.command? : Event → Option Submission
  | .handed (.command c result passed shot) => some (.command c result passed shot)
  | _ => none

/-- What decides which reports are made, and how. -/
structure Terms where
  /-- Whether there is an Agent client. -/
  client : Bool
  switches : Switches
  capabilities : Capabilities

namespace Terms

variable (terms : Terms)

def takesReports : Bool := terms.client && !terms.switches.reportsDisabled

def takesCommands : Bool := !terms.switches.commandsDisabled && terms.takesReports

/-- The lookups made for one report, and whether its text is to be masked. -/
inductive Lookups (c : Command) : List Event → Bool → Prop where
  | off : terms.switches.redactionDisabled = true → Lookups c [] false
  | made {lookups : List Event} {secret : Bool} : terms.switches.redactionDisabled = false →
      Redaction.Inquiry terms.capabilities c lookups secret → Lookups c lookups secret

/-- Whether what is filed is to be reported; a command that was sent always shows. -/
def takes : Filing Numbered → Bool
  | .sent _ _ => true
  | .attempt _ => terms.takesCommands
  | .lost _ => terms.takesCommands
  | .test _ => terms.takesReports
  | .step => terms.takesReports

/-- What is handed over for one filing, after which lookups. -/
inductive Hands : Filing Numbered → List Event → Submission → Prop where
  | attempt {a : Numbered} {lookups : List Event} {secret : Bool} :
      terms.Lookups a.attempt.command lookups secret →
      Hands (.attempt a) lookups (a.attempt.submission secret)
  | test (name : String) : Hands (.test name) [] (.test { name })
  | step (report : StepReport) : Hands .step [] (.step report)

inductive Shows : Filing Numbered → List Event → Prop where
  | sent (c : Command) (answer : Except Fault Response) :
      Shows (.sent c answer) [.sent c answer]
  | handed {f : Filing Numbered} {lookups : List Event} {s : Submission} :
      terms.takes f = true → terms.Hands f lookups s → Shows f (lookups ++ [.handed s])
  | lost {a : Numbered} {lookups : List Event} : terms.takesCommands = true →
      terms.Lookups a.attempt.command lookups true → a.attempt.command.copyFault?.isSome = true →
      Shows (.lost a) lookups
  | untaken {f : Filing Numbered} : terms.takes f = false → Shows f []

/-- The events that filings show as. -/
inductive Shown : List (Filing Numbered) → List Event → Prop where
  | nil : Shown [] []
  | cons {f : Filing Numbered} {fs : List (Filing Numbered)} {block events : List Event} :
      terms.Shows f block → Shown fs events → Shown (f :: fs) (block ++ events)

variable {terms} {f : Filing Numbered} {fs gs : List (Filing Numbered)}
variable {lookups block events more : List Event} {s : Submission}

theorem Shows.shown (h : terms.Shows f block) : terms.Shown [f] block := by
  have := Shown.cons h Shown.nil
  rwa [List.append_nil] at this

theorem Shown.append (h : terms.Shown fs events) (h' : terms.Shown gs more) :
    terms.Shown (fs ++ gs) (events ++ more) := by
  induction h with
  | nil => exact h'
  | cons hf _ ih =>
    rw [List.append_assoc]
    exact .cons hf ih

theorem Shown.mem_sent {c : Command} {answer : Except Fault Response}
    (h : terms.Shown fs events) (hm : .sent c answer ∈ fs) : .sent c answer ∈ events := by
  induction h with
  | nil => exact absurd hm List.not_mem_nil
  | cons hf _ ih =>
    rcases List.mem_cons.mp hm with rfl | hm
    · cases hf with
      | sent => exact List.mem_append_left _ List.mem_cons_self
      | handed _ hh => cases hh
      | untaken ht => cases ht
    · exact List.mem_append_right _ (ih hm)

theorem Lookups.asks {c : Command} {secret : Bool} (h : terms.Lookups c lookups secret) :
    ∀ event ∈ lookups, Redaction.Asks c event := by
  cases h with
  | off => exact nofun
  | made _ hi => exact hi.asks

theorem Lookups.not_handed {c : Command} {secret : Bool} (h : terms.Lookups c lookups secret) :
    .handed s ∉ lookups := by
  intro hs
  cases h.asks _ hs

theorem Hands.not_handed {t : Submission} (h : terms.Hands f lookups t) :
    .handed s ∉ lookups := by
  cases h with
  | attempt hl => exact hl.not_handed
  | test => exact List.not_mem_nil
  | step => exact List.not_mem_nil

theorem Shown.not_handed (h : terms.Shown fs events)
    (hf : ∀ f ∈ fs, ∃ c answer, f = .sent c answer) : .handed s ∉ events := by
  induction h with
  | nil => exact List.not_mem_nil
  | cons hs _ ih =>
    obtain ⟨⟨c, answer, rfl⟩, hr⟩ := List.forall_mem_cons.mp hf
    rw [List.mem_append, not_or]
    refine ⟨?_, ih hr⟩
    cases hs with
    | sent => simp
    | handed _ hh => cases hh
    | untaken => exact List.not_mem_nil

theorem Shows.handed_last {rest : List Event}
    (h : terms.Shows f (block ++ .handed s :: rest)) :
    rest = [] ∧ terms.takes f = true ∧ terms.Hands f block s := by
  generalize hb : block ++ .handed s :: rest = whole at h
  cases h with
  | sent c answer => simp [List.append_eq_singleton_iff] at hb
  | untaken => simp at hb
  | lost _ hl =>
    have hn : Event.handed s ∉ block ++ .handed s :: rest := hb ▸ hl.not_handed
    exact absurd (List.mem_append_right _ List.mem_cons_self) hn
  | @handed _ lookups t ht hh =>
    rcases split_append hb with ⟨pre, rfl, hp⟩ | ⟨_, rfl, -⟩
    · cases pre with
      | nil =>
        obtain ⟨rfl, rfl⟩ : s = t ∧ rest = [] := by simpa using hp
        exact ⟨rfl, ht, by simpa using hh⟩
      | cons e pre => simp at hp
    · have hn : Event.handed s ∉ block ++ .handed s :: _ := hh.not_handed
      exact absurd (List.mem_append_right _ List.mem_cons_self) hn

/-- A report among the events belongs to one filing, and comes after its lookups. -/
theorem Shown.handed {before after : List Event}
    (h : terms.Shown fs (before ++ .handed s :: after)) :
    ∃ f earlier lookups, ∃ pre post, fs = pre ++ f :: post ∧ before = earlier ++ lookups ∧
      terms.Shown pre earlier ∧ terms.Shown post after ∧ terms.takes f = true ∧
      terms.Hands f lookups s := by
  generalize he : before ++ .handed s :: after = events at h
  induction h generalizing before with
  | nil => simp at he
  | @cons f fs block events hf ht ih =>
    rcases split_append he with ⟨before, rfl, hb⟩ | ⟨rest, rfl, rfl⟩
    · obtain ⟨f', earlier, lookups, pre, post, rfl, rfl, hp, hr⟩ := ih hb
      exact ⟨f', block ++ earlier, lookups, f :: pre, post, rfl, (List.append_assoc ..).symm,
        .cons hf hp, hr⟩
    · obtain ⟨rfl, hk, hh⟩ := hf.handed_last
      exact ⟨f, [], before, [], fs, rfl, rfl, .nil, ht, hk, hh⟩

theorem Lookups.redactable {c : Command} (h : terms.Lookups c lookups true) :
    Redaction.isRedactable c = true := by
  cases h with
  | made _ hi => cases hi with | secure hr _ => exact hr

theorem Lookups.reported {a : Numbered} {secret : Bool}
    (h : terms.Lookups a.attempt.command lookups secret) :
    a.ReportedAs (a.attempt.submission secret) := by
  refine ⟨secret, rfl, ?_⟩
  rintro rfl
  exact h.redactable

theorem command?_eq_none (h : ∀ s, .handed s ∉ lookups) :
    lookups.filterMap Event.command? = [] := by
  refine List.filterMap_eq_nil_iff.mpr fun e he => ?_
  cases e with
  | sent c answer => rfl
  | handed s => exact absurd he (h s)

/-- Where commands are reported at all, the attempts that are filed are, and in order. -/
theorem Shown.commands (h : terms.Shown fs events) (ht : terms.takesCommands = true) :
    List.Forall₂ Numbered.ReportedAs (fs.filterMap Filing.attempt?)
      (events.filterMap Event.command?) := by
  induction h with
  | nil => exact .nil
  | @cons f fs block events hf _ ih =>
    rw [List.filterMap_append]
    cases hf with
    | sent c answer => exact ih
    | lost _ hl =>
      rw [command?_eq_none fun _ => hl.not_handed]
      exact ih
    | untaken hu =>
      cases f with
      | attempt a => cases ht.symm.trans hu
      | _ => exact ih
    | handed _ hh =>
      rw [List.filterMap_append, command?_eq_none fun _ => hh.not_handed, List.nil_append]
      cases hh with
      | test name => exact ih
      | step report => exact ih
      | attempt hl => exact .cons hl.reported ih

end Terms

end AgentReporting
