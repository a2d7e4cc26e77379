import AgentReporting.Proofs.Recorder.Moment

/-! # Dialogues

What a recorder does is a dialogue over its links: a command or a report goes out, and what
comes back decides what goes out next. The dialogue is the same over all links, so a property
of dialogues is one of every operation of a recorder.
-/

namespace AgentReporting

variable {σ τ α β : Type}

inductive Dialogue (α : Type) where
  | answer (a : α)
  | ask (c : Command) (next : Except Fault Response → Dialogue α)
  | hand (s : Submission) (next : Bool → Dialogue α)
  | write (line : LogLine) (next : Dialogue α)

/-- Hands a report over; where nobody takes reports, none is refused. -/
def Links.hand (links : Links σ) (s : Submission) : Act σ Bool :=
  match links.submit with
  | some submit => submit s
  | none => pure true

namespace Dialogue

def bind (f : α → Dialogue β) : Dialogue α → Dialogue β
  | answer a => f a
  | ask c next => ask c fun reply => bind f (next reply)
  | hand s next => hand s fun accepted => bind f (next accepted)
  | write line next => write line (bind f next)

def run (links : Links σ) : Dialogue α → Act σ α
  | answer a => pure a
  | ask c next => do run links (next (← (links.send c).result))
  | hand s next => do run links (next (← links.hand s))
  | write line next => do
    Act.write line
    run links next

theorem run_bind (links : Links σ) (f : α → Dialogue β) (d : Dialogue α) :
    (d.bind f).run links = d.run links >>= fun a => (f a).run links := by
  induction d with
  | answer a => rfl
  | ask c next ih => exact congrArg (_ >>= ·) (funext ih)
  | hand s next ih => exact congrArg (_ >>= ·) (funext ih)
  | write line next ih => exact congrArg (_ >>= ·) (funext fun _ => ih)

end Dialogue

/-- An act over links of any kind is a dialogue, the same over all links with a client and
over all without one. -/
def Act.Conducted (client : Bool) (act : (σ : Type) → Links σ → Act σ α) : Prop :=
  ∃ d : Dialogue α, ∀ σ (links : Links σ), links.submit.isSome = client → act σ links = d.run links

namespace Act.Conducted

variable {client : Bool} {act : (σ : Type) → Links σ → Act σ α}

theorem answer (a : α) : Conducted client fun _ _ => pure a := ⟨.answer a, fun _ _ _ => rfl⟩

theorem seq {f : (σ : Type) → Links σ → α → Act σ β} (h : Conducted client act)
    (hf : ∀ a, Conducted client fun σ links => f σ links a) :
    Conducted client fun σ links => act σ links >>= f σ links := by
  obtain ⟨d, hd⟩ := h
  obtain ⟨e, he⟩ := Classical.axiomOfChoice hf
  refine ⟨d.bind e, fun σ links hc => ?_⟩
  have hf : f σ links = fun a => (e a).run links := funext fun a => he a σ links hc
  change act σ links >>= f σ links = _
  rw [Dialogue.run_bind, hd σ links hc, hf]

theorem ite {p : Prop} [Decidable p] {other : (σ : Type) → Links σ → Act σ α}
    (h : Conducted client act) (ho : Conducted client other) :
    Conducted client fun σ links => if p then act σ links else other σ links := by
  split
  · exact h
  · exact ho

theorem write (line : LogLine) : Conducted client fun _ _ => Act.write line :=
  ⟨.write line (.answer ()), fun _ _ _ => rfl⟩

theorem send (c : Command) : Conducted client fun _ links => (links.send c).result :=
  ⟨.ask c .answer, fun _ _ _ => rfl⟩

theorem hand (s : Submission) : Conducted client fun _ links => links.hand s :=
  ⟨.hand s .answer, fun _ _ _ => rfl⟩

theorem attempt_seq {x : (σ : Type) → Links σ → Attempt σ α}
    {f : (σ : Type) → Links σ → α → Attempt σ β}
    (h : Conducted client fun σ links => (x σ links).result)
    (hf : ∀ a, Conducted client fun σ links => (f σ links a).result) :
    Conducted client fun σ links => (x σ links >>= f σ links).result := by
  change Conducted client fun σ links => (x σ links).result >>= ExceptT.bindCont (f σ links)
  refine seq h fun answered => ?_
  cases answered with
  | error fault => exact answer _
  | ok a => exact hf a

end Act.Conducted

namespace Redaction

open Act.Conducted

variable {client : Bool} (caps : Capabilities) (c : Command)

theorem target_conducted :
    Act.Conducted client fun _ links => (target links.send c).result := by
  unfold target
  exact ite (answer _) (attempt_seq (send _) fun _ => answer _)

theorem targetsSecret_conducted :
    Act.Conducted client fun _ links => (targetsSecret links.send caps c).result := by
  refine attempt_seq (target_conducted c) fun id => ?_
  exact ite (answer _) (attempt_seq (send _) fun _ => answer _)

theorem hidesText_conducted :
    Act.Conducted client fun _ links => hidesText links.send caps c := by
  refine ite (answer _) (seq (targetsSecret_conducted caps c) fun verdict => ?_)
  cases verdict <;> exact answer _

theorem redact_conducted : Act.Conducted client fun _ links => redact links.send caps c :=
  seq (hidesText_conducted caps c) fun _ => answer _

end Redaction

def Recording.Conducted (client : Bool) (op : (σ : Type) → Links σ → Recording σ α) : Prop :=
  ∀ recorder, Act.Conducted client fun σ links => (op σ links).run recorder

namespace Recording.Conducted

variable {client : Bool} {op : (σ : Type) → Links σ → Recording σ α}

theorem answer (a : α) : Conducted client fun _ _ => pure a := fun _ => .answer _

theorem congr {op' : (σ : Type) → Links σ → Recording σ α} (h : Conducted client op)
    (he : ∀ σ (links : Links σ), links.submit.isSome = client → op' σ links = op σ links) :
    Conducted client op' := by
  intro recorder
  obtain ⟨d, hd⟩ := h recorder
  exact ⟨d, fun σ links hc => (congrArg (·.run recorder) (he σ links hc)).trans (hd σ links hc)⟩

theorem read : Conducted client fun _ _ => get := fun _ => .answer _

theorem put (recorder : Recorder) : Conducted client fun _ _ => set recorder := fun _ => .answer _

theorem change (f : Recorder → Recorder) : Conducted client fun _ _ => modify f :=
  fun _ => .answer _

theorem seq {f : (σ : Type) → Links σ → α → Recording σ β} (h : Conducted client op)
    (hf : ∀ a, Conducted client fun σ links => f σ links a) :
    Conducted client fun σ links => op σ links >>= f σ links :=
  fun recorder => .seq (h recorder) fun done => hf done.1 done.2

theorem ite {p : Prop} [Decidable p] {other : (σ : Type) → Links σ → Recording σ α}
    (h : Conducted client op) (ho : Conducted client other) :
    Conducted client fun σ links => if p then op σ links else other σ links := by
  split
  · exact h
  · exact ho

theorem outside {act : (σ : Type) → Links σ → Act σ α} (h : Act.Conducted client act) :
    Conducted client fun σ links => (liftM (act σ links) : Recording σ α) :=
  fun recorder => .seq h fun a => .answer (a, recorder)

theorem forget (h : Conducted client op) : Conducted client fun σ links => discard (op σ links) :=
  .seq h fun _ => .answer _

end Recording.Conducted

namespace Recorder

open Recording.Conducted

variable {client : Bool}

theorem sink?_eq {links : Links σ} (h : links.submit.isSome = client) (recorder : Recorder) :
    sink? links recorder =
      if client && !recorder.switches.reportsDisabled then some links.hand else none := by
  unfold sink?
  cases recorder.switches.reportsDisabled with
  | true => simp
  | false =>
    subst h
    cases hs : links.submit with
    | none => simp
    | some submit => simp [funext_iff, Links.hand, hs]

theorem redacted_conducted (c : Command) :
    Recording.Conducted client fun _ links => redacted links c := by
  refine seq read fun recorder => ?_
  exact ite (answer _) (outside (Redaction.redact_conducted _ c))

def handRedacted (links : Links σ) (a : Attempted) (screenshot : Value) :
    Except Fault Command → Recording σ (Except Fault Bool)
  | .error fault => return .error fault
  | .ok c => return .ok (← links.hand (.command c a.response.result a.response.isPassed screenshot))

theorem handRedacted_conducted (a : Attempted) (screenshot : Value) (c : Except Fault Command) :
    Recording.Conducted client fun _ links => handRedacted links a screenshot c := by
  cases c with
  | error fault => exact answer _
  | ok c => exact seq (outside (.hand _)) fun _ => answer _

theorem tellCommand_conducted (a : Attempted) (screenshot : Value) :
    Recording.Conducted client fun _ links => tellCommand links a screenshot := by
  refine seq read fun recorder => ite (answer _) ?_
  cases ht : client && !recorder.switches.reportsDisabled with
  | false => exact (answer (.ok true)).congr fun σ links hc => by rw [sink?_eq hc, ht]; rfl
  | true =>
    have hs : Recording.Conducted client fun _ links =>
        redacted links a.command >>= handRedacted links a screenshot :=
      seq (redacted_conducted a.command) (handRedacted_conducted a screenshot)
    refine hs.congr fun σ links hc => ?_
    rw [sink?_eq hc, ht]
    refine congrArg (redacted links a.command >>= ·) (funext fun c => ?_)
    cases c <;> rfl

theorem reportCommand_conducted (a : Attempted) (screenshot : Value) :
    Recording.Conducted client fun _ links => reportCommand links a screenshot :=
  seq (tellCommand_conducted a screenshot) fun _ => answer _

theorem reportCopies_conducted (copies : List Copy) :
    Recording.Conducted client fun _ links => reportCopies links copies := by
  induction copies with
  | nil => exact answer _
  | cons copy rest ih =>
    refine seq (reportCommand_conducted copy.toAttempted .null) fun accepted => ?_
    exact ite (seq (outside (.write _)) fun _ => ih) ih

theorem clearStash_conducted : Recording.Conducted client fun _ links => clearStash links :=
  seq read fun _ => seq (put _) fun _ => reportCopies_conducted _

theorem reportTest_conducted (name : Option String) (force : Bool) :
    Recording.Conducted client fun _ links => reportTest links name force := by
  unfold reportTest
  refine seq read fun recorder => ?_
  obtain ⟨current, ended⟩ := TestPeriod.observe force name recorder.currentTest
  refine seq (put _) fun _ => ?_
  cases ended with
  | none => exact answer _
  | some test =>
    cases ht : client && !recorder.switches.reportsDisabled with
    | false => exact (answer ()).congr fun σ links hc => by rw [sink?_eq hc, ht]; rfl
    | true =>
      have hh : Recording.Conducted client fun _ links => discard (liftM (links.hand _)) :=
        forget (outside (.hand (.test { name := test })))
      exact hh.congr fun σ links hc => by rw [sink?_eq hc, ht]; rfl

theorem file_conducted (site : Callsite) (a : Attempted) :
    Recording.Conducted client fun _ links => Moment.file links site a := by
  have hdirect : Recording.Conducted client fun _ links => Moment.direct links a := by
    refine seq clearStash_conducted fun _ => seq (tellCommand_conducted a .null) fun _ => ?_
    exact ite (seq (outside (.write _)) fun _ => answer _) (answer _)
  refine ite (answer _) (ite ?_ hdirect)
  cases a.command.structuralKey with
  | error fault => exact answer _
  | ok key => exact seq (change _) fun _ => answer _

theorem report_conducted (site : Callsite) (a : Attempted) :
    Recording.Conducted client fun _ links => report links site a := by
  refine seq read fun recorder => ?_
  exact ite (seq (reportTest_conducted _ _) fun _ => file_conducted site a) (file_conducted site a)

theorem execute_conducted (site : Callsite) (c : Command) (skip : Bool) :
    Recording.Conducted client fun _ links => execute links site c skip := by
  refine seq (outside (.send c)) fun answered => ?_
  cases answered with
  | error fault => exact answer _
  | ok response =>
    refine ite (answer _) (seq (report_conducted site _) fun done => ?_)
    cases done <;> exact answer _

end Recorder

/-! ## Mirrors -/

/-- The second act does what the first one does, on a trail that is seen through a view. -/
def Act.Mirrored (view : Trail τ → Trail σ) (act : Act σ α) (mirror : Act τ α) : Prop :=
  ∀ t, (mirror.run t).1 = (act.run (view t)).1 ∧ view (mirror.run t).2 = (act.run (view t)).2

structure Links.Mirrored (view : Trail τ → Trail σ) (links : Links σ) (mirror : Links τ) :
    Prop where
  client : mirror.submit.isSome = links.submit.isSome
  send : ∀ c, Act.Mirrored view (links.send c).result (mirror.send c).result
  hand : ∀ s, Act.Mirrored view (links.hand s) (mirror.hand s)
  write : ∀ line, Act.Mirrored view (Act.write line) (Act.write line)

variable {view : Trail τ → Trail σ} {links : Links σ} {mirror : Links τ}

theorem Act.Mirrored.seq {act : Act σ α} {act' : Act τ α} {f : α → Act σ β} {f' : α → Act τ β}
    (h : Mirrored view act act') (hf : ∀ a, Mirrored view (f a) (f' a)) :
    Mirrored view (act >>= f) (act' >>= f') := by
  intro t
  obtain ⟨ha, ht⟩ := h t
  have hb := hf (act'.run t).1 (act'.run t).2
  have hc : (f (act'.run t).1).run (act.run (view t)).2 = (act >>= f).run (view t) := by
    rw [ha]
    rfl
  rw [ht, hc] at hb
  exact hb

theorem Dialogue.mirrored (h : links.Mirrored view mirror) (d : Dialogue α) :
    Act.Mirrored view (d.run links) (d.run mirror) := by
  induction d with
  | answer a => exact fun _ => ⟨rfl, rfl⟩
  | ask c next ih => exact (h.send c).seq ih
  | hand s next ih => exact (h.hand s).seq ih
  | write line next ih => exact (h.write line).seq fun _ => ih

/-- An operation over a mirror does what it does over the links themselves. -/
theorem Recording.Conducted.mirrored {op : (σ : Type) → Links σ → Recording σ α}
    (ho : ∀ client, Conducted client op) (h : links.Mirrored view mirror) (recorder : Recorder) :
    Act.Mirrored view ((op _ links).run recorder) ((op _ mirror).run recorder) := by
  obtain ⟨d, hd⟩ := ho links.submit.isSome recorder
  have hm := d.mirrored h
  rwa [← hd _ links rfl, ← hd _ mirror h.client] at hm

theorem Moment.run_mirrored (m : Moment τ) {op : Recording σ α} {op' : Recording τ α}
    (h : Act.Mirrored view (op.run m.recorder) (op'.run m.recorder)) :
    let seen (m : Moment τ) : Moment σ := ⟨m.recorder, view m.trail⟩
    (m.run op').1 = ((seen m).run op).1 ∧ seen (m.run op').2 = ((seen m).run op).2 := by
  intro seen
  obtain ⟨ha, ht⟩ := h m.trail
  have hr : (m.run op').2.recorder = ((seen m).run op).2.recorder := congrArg Prod.snd ha
  refine ⟨congrArg Prod.fst ha, ?_⟩
  change Moment.mk _ (view (m.run op').2.trail) = _
  rw [hr]
  exact congrArg (Moment.mk _) ht

end AgentReporting
