import AgentReporting.Proofs.Recorder.Direct
import AgentReporting.Proofs.Recorder.Masking
import AgentReporting.Proofs.Recorder.Overhearing

/-! # Secrecy of what is typed

Two commands that differ in what is typed into a secure field are told apart by the automation
server only. What is reported, what the recorder keeps and what it writes to the log is the
same for both, as long as the server answers both alike.
-/

namespace AgentReporting

variable {σ τ : Type}

namespace Redaction

variable {c c' : Command}

theorem typed_agree (h : c.AgreeApart typedKeys c') : (masked c).AgreeApart [] (masked c') := by
  obtain ⟨session, name, parameters⟩ := c
  obtain ⟨session', name', parameters'⟩ := c'
  refine ⟨h.session, h.name, ?_⟩
  have hm : ∀ xs ys : Entries Value,
      (∀ key, key ∉ typedKeys → Entries.get? ys key = Entries.get? xs key) → ∀ key,
      Entries.get? (Entries.merge ys [("text", mask), ("value", mask)]) key =
        Entries.get? (Entries.merge xs [("text", mask), ("value", mask)]) key := by
    intro xs ys hxy key
    simp only [Entries.merge, List.foldl_cons, List.foldl_nil, Entries.get?_put]
    split
    · rfl
    · split
      · rfl
      · exact hxy key (by simp_all [typedKeys])
  cases h.parameters with
  | dict hxy => exact .dict fun key _ => hm _ _ hxy key
  | paired hxy => exact .paired fun key _ => hm _ _ hxy key

/-- What is asked about the field does not depend on what is typed. -/
theorem hidesText_eq (h : c.AgreeApart typedKeys c') (send : Command → Attempt σ Response)
    (caps : Capabilities) : hidesText send caps c' = hidesText send caps c := by
  have hid : c'.parameters.get "id" = c.parameters.get "id" :=
    congrArg (·.getD .null) (h.parameters.field?_eq (by decide))
  simp only [hidesText, targetsSecret, target, isRedactable, askActive, askAttribute, h.name,
    h.session, hid]
  rfl

theorem Hides.of_agree {shown shown' : Command} (h : Hides shown c)
    (hc : c.AgreeApart typedKeys c') (hsession : shown'.sessionId = shown.sessionId)
    (hname : shown'.name = shown.name)
    (hfield : ∀ key, shown'.parameters.field? key = shown.parameters.field? key) :
    Hides shown' c' where
  session := hsession.trans (h.session.trans hc.session.symm)
  name := hname.trans (h.name.trans hc.name.symm)
  parameters _ key := by
    rw [hfield, h.parameters hc.parameters.isDict]
    split
    · rfl
    · rename_i hk
      exact (hc.parameters.field?_eq (by simpa [typedKeys] using hk)).symm

theorem Hides.of_same {shown : Command} {s : Submission} {result shot : Value} {passed : Bool}
    (h : Hides shown c) (hc : c.AgreeApart typedKeys c')
    (hs : Submission.Same (.command shown result passed shot) s) :
    ∃ shown', s = .command shown' result passed shot ∧ Hides shown' c' := by
  cases hs with
  | refl => exact ⟨shown, rfl, h.of_agree hc rfl rfl fun _ => rfl⟩
  | @command _ shown' _ _ _ ha =>
    exact ⟨shown', rfl, h.of_agree hc ha.session ha.name
      fun _ => ha.parameters.field?_eq List.not_mem_nil⟩

theorem isQuit_of_redactable (h : isRedactable c = true) : c.isQuit = false := by
  rcases Bool.or_eq_true_iff.mp h with h | h
  · rw [Command.isQuit, eq_of_beq h]
    decide
  · rw [Command.isQuit, eq_of_beq h]
    decide

end Redaction

namespace Moment

open Recorder Redaction

section Reporting

variable (links : Links σ) (m : Moment σ)

theorem terms_overheard (recorder : Recorder) :
    terms links.overheard recorder = terms links recorder := by
  rw [terms, terms, links.isSome_overheard]

theorem crossings_reported (m : Moment (Overheard σ)) (refusal : String) (a : Attempted) :
    (m.reported links.overheard refusal a).crossings =
      (m.run (tellCommand links.overheard a .null)).2.crossings := by
  rw [reported, run_reportCommand_eq]
  generalize m.run (tellCommand links.overheard a .null) = done
  obtain ⟨told, after⟩ := done
  cases h : accepted told <;> simp only [h] <;> rfl

theorem crossings_grow_reported (m : Moment (Overheard σ)) (refusal : String) (a : Attempted) :
    m.crossings <+: (m.reported links.overheard refusal a).crossings := by
  rw [crossings_reported]
  exact Recording.Conducted.crossings_grow (fun _ => tellCommand_conducted a .null) links m

theorem crossings_grow_handRedacted (m : Moment (Overheard σ)) (a : Attempted) (shot : Value)
    (c : Except Fault Command) :
    m.crossings <+: (m.run (handRedacted links.overheard a shot c)).2.crossings :=
  Recording.Conducted.crossings_grow (fun _ => handRedacted_conducted a shot c) links m

theorem crossings_grow_execute (m : Moment (Overheard σ)) {site : Callsite} {c : Command}
    (hq : c.isQuit = false) (hw : site.insideWait = false) :
    (m.run (liftM (links.overheard.send c).result)).2.crossings <+:
      (m.run (execute links.overheard site c false)).2.crossings := by
  rw [run_execute_direct _ _ hq hw]
  generalize m.run (liftM (links.overheard.send c).result) = sent
  obtain ⟨answer, sent⟩ := sent
  cases answer with
  | error fault => exact List.prefix_rfl
  | ok response =>
    have hready : ∀ client, Recording.Conducted client fun _ links => ready links site :=
      fun _ => ready_conducted site
    exact (Recording.Conducted.crossings_grow hready links sent).trans
      (crossings_grow_reported ..)

end Reporting

section Two

variable {links : Links σ} {links' : Links τ} (hs : links.Silent) (hs' : links'.Silent)
variable (hp : links'.submit.isSome = links.submit.isSome)
variable {log log' : List LogLine} {m : Moment (Overheard σ)} {m' : Moment (Overheard τ)}
variable {c c' : Command}

include hs hs'

theorem Even.ask (he : m.Even log log' m') (hc : c.Corresponds c')
    (ha : Crossing.Agree (m.run (liftM (links.overheard.send c).result)).2.crossings
      (m'.run (liftM (links'.overheard.send c').result)).2.crossings) :
    (m'.run (liftM (links'.overheard.send c').result)).1 =
        (m.run (liftM (links.overheard.send c).result)).1 ∧
      (m.run (liftM (links.overheard.send c).result)).2.Even log log'
        (m'.run (liftM (links'.overheard.send c').result)).2 := by
  obtain ⟨hr, ht⟩ := he.trail.ask hs hs' hc ha
  exact ⟨hr, he.recorder, ht⟩

include hp

theorem Even.hand (he : m.Even log log' m') {s s' : Submission} (hc : s.Same s')
    (ha : Crossing.Agree (m.run (liftM (links.overheard.hand s))).2.crossings
      (m'.run (liftM (links'.overheard.hand s'))).2.crossings) :
    (m'.run (liftM (links'.overheard.hand s'))).1 = (m.run (liftM (links.overheard.hand s))).1 ∧
      (m.run (liftM (links.overheard.hand s))).2.Even log log'
        (m'.run (liftM (links'.overheard.hand s'))).2 := by
  obtain ⟨hr, ht⟩ := he.trail.hand hs hs' hp hc ha
  exact ⟨hr, he.recorder, ht⟩

theorem Even.tellCommand (he : m.Even log log' m')
    (hr : m.recorder.switches.redactionDisabled = false) (hc : c.AgreeApart typedKeys c')
    (hcopy : c'.copyFault? = c.copyFault?)
    (response : Response) (hsecret : (terms links m.recorder).takesCommands = true →
      (m.run (liftM (hidesText links.overheard.send m.recorder.capabilities c))).1 = true)
    (ha : Crossing.Agree
      (m.run (tellCommand links.overheard ⟨c, response⟩ .null)).2.crossings
      (m'.run (tellCommand links'.overheard ⟨c', response⟩ .null)).2.crossings) :
    (m'.run (Recorder.tellCommand links'.overheard ⟨c', response⟩ .null)).1 =
        (m.run (Recorder.tellCommand links.overheard ⟨c, response⟩ .null)).1 ∧
      (m.run (Recorder.tellCommand links.overheard ⟨c, response⟩ .null)).2.Even log log'
        (m'.run (Recorder.tellCommand links'.overheard ⟨c', response⟩ .null)).2 := by
  have htt : terms links'.overheard m'.recorder = terms links.overheard m.recorder := by
    rw [terms_overheard, terms_overheard, he.recorder, terms, terms, hp]
  cases ht : (terms links.overheard m.recorder).takesCommands with
  | false =>
    rw [run_tellCommand_of_untaken _ ht,
      run_tellCommand_of_untaken _ ((congrArg Terms.takesCommands htt).trans ht)]
    exact ⟨rfl, he⟩
  | true =>
    rw [run_tellCommand _ ht hr, run_tellCommand _
      ((congrArg Terms.takesCommands htt).trans ht) (he.recorder ▸ hr)] at ha ⊢
    simp only [he.recorder, hidesText_eq hc] at ha ⊢
    have hop : ∀ client, Recording.Conducted client fun σ links =>
        (liftM (hidesText links.send m.recorder.capabilities c) : Recording σ Bool) :=
      fun _ => .outside (hidesText_conducted _ _)
    obtain ⟨hv, hn⟩ := Recording.Conducted.even hop hs hs' hp he
      (ha.of_prefix (crossings_grow_handRedacted ..) (crossings_grow_handRedacted ..))
    have hv := hv.trans (hsecret (terms_overheard links _ ▸ ht))
    rw [hv, hsecret (terms_overheard links _ ▸ ht), disguise, disguise, if_pos rfl, if_pos rfl,
      hcopy] at ha ⊢
    cases hf : c.copyFault? with
    | some fault => exact ⟨rfl, hn⟩
    | none =>
      rw [hf] at ha
      obtain ⟨hr, hn⟩ := hn.hand hs hs' hp (.command _ _ _ (typed_agree hc)) ha
      exact ⟨congrArg Except.ok hr, hn⟩

theorem Even.reported (he : m.Even log log' m')
    (hr : m.recorder.switches.redactionDisabled = false) (hc : c.AgreeApart typedKeys c')
    (hcopy : c'.copyFault? = c.copyFault?) (refusal : String) (response : Response)
    (hsecret : (terms links m.recorder).takesCommands = true →
      (m.run (liftM (hidesText links.overheard.send m.recorder.capabilities c))).1 = true)
    (ha : Crossing.Agree (m.reported links.overheard refusal ⟨c, response⟩).crossings
      (m'.reported links'.overheard refusal ⟨c', response⟩).crossings) :
    (m'.run (Recorder.tellCommand links'.overheard ⟨c', response⟩ .null)).1 =
        (m.run (Recorder.tellCommand links.overheard ⟨c, response⟩ .null)).1 ∧
      (m.reported links.overheard refusal ⟨c, response⟩).Even log log'
        (m'.reported links'.overheard refusal ⟨c', response⟩) := by
  rw [crossings_reported, crossings_reported] at ha
  obtain ⟨hr, hn⟩ := he.tellCommand hs hs' hp hr hc hcopy response hsecret ha
  refine ⟨hr, ?_⟩
  rw [Moment.reported, Moment.reported, run_reportCommand_eq, run_reportCommand_eq]
  simp only [hr]
  split
  · exact hn
  · exact ⟨hn.recorder, hn.trail.write _⟩

theorem Even.execute (he : m.Even log log' m')
    (hr : m.recorder.switches.redactionDisabled = false) {site : Callsite}
    (hw : site.insideWait = false) (hk : isRedactable c = true) (hc : c.AgreeApart typedKeys c')
    (hcopy : c'.copyFault? = c.copyFault?)
    (hsecret : (terms links m.recorder).takesCommands = true → ∀ response,
      (m.run (liftM (links.overheard.send c).result)).1 = .ok response →
      let due := ((m.run (liftM (links.overheard.send c).result)).2.run
        (ready links.overheard site)).2
      (due.run (liftM (hidesText links.overheard.send m.recorder.capabilities c))).1 = true)
    (ha : Crossing.Agree (m.run (execute links.overheard site c false)).2.crossings
      (m'.run (execute links'.overheard site c' false)).2.crossings) :
    (m'.run (Recorder.execute links'.overheard site c' false)).1 =
        (m.run (Recorder.execute links.overheard site c false)).1 ∧
      (m.run (Recorder.execute links.overheard site c false)).2.Even log log'
        (m'.run (Recorder.execute links'.overheard site c' false)).2 := by
  have hq : c.isQuit = false := isQuit_of_redactable hk
  have hq' : c'.isQuit = false := by rw [Command.isQuit, hc.name]; exact hq
  have hx := crossings_grow_execute links m hq hw
  have hx' := crossings_grow_execute links' m' hq' hw
  obtain ⟨hanswer, hn⟩ := he.ask hs hs' (.inr hc) (ha.of_prefix hx hx')
  rw [run_execute_direct _ _ hq hw, run_execute_direct _ _ hq' hw] at ha ⊢
  simp only [hanswer] at ha ⊢
  -- up to the report both recorders are told the same, and the lookups for it come after that
  have hrecorder : (m.run (liftM (links.overheard.send c).result)).2.recorder = m.recorder := rfl
  generalize m.run (liftM (links.overheard.send c).result) = sent at *
  generalize m'.run (liftM (links'.overheard.send c').result) = sent' at *
  obtain ⟨answer, sent⟩ := sent
  cases answer with
  | error fault => exact ⟨rfl, hn⟩
  | ok response =>
    have hready : ∀ client, Recording.Conducted client fun _ links => ready links site :=
      fun _ => ready_conducted site
    have hterms : terms links (sent.run (ready links.overheard site)).2.recorder =
        terms links m.recorder := by
      rw [← terms_overheard, terms_ready, terms_overheard, hrecorder]
    obtain ⟨-, hn⟩ := Recording.Conducted.even hready hs hs' hp hn
      (ha.of_prefix (crossings_grow_reported ..) (crossings_grow_reported ..))
    rw [hc.name] at ha ⊢
    have hredact : (sent.run (ready links.overheard site)).2.recorder.switches.redactionDisabled =
        false := (congrArg (·.switches.redactionDisabled) hterms).trans hr
    have hcaps : (sent.run (ready links.overheard site)).2.recorder.capabilities =
        m.recorder.capabilities := congrArg Terms.capabilities hterms
    obtain ⟨htold, hn⟩ := hn.reported hs hs' hp hredact hc hcopy _ response (fun ht => by
      rw [hcaps]
      exact hsecret ((congrArg Terms.takesCommands hterms).symm.trans ht) response rfl) ha
    exact ⟨congrArg (·.map fun _ => response) htold, hn⟩

end Two

section Interference

variable {links : Links σ} {links' : Links τ}

def heard (links : Links σ) (m : Moment σ) (site : Callsite) (c : Command) : List Crossing :=
  (m.overheard.run (Recorder.execute links.overheard site c false)).2.crossings

/-- Where a command is reported, the lookups made for it identify a secure field. -/
def Conceals (links : Links σ) (m : Moment σ) (site : Callsite) (c : Command) : Prop :=
  (terms links m.recorder).takesCommands = true → ∀ response,
    (m.run (liftM (links.send c).result)).1 = .ok response →
    let due := ((m.run (liftM (links.send c).result)).2.run (ready links site)).2
    ((hidesText links.send m.recorder.capabilities c).run due.trail).1 = true

/-- Where a command is reported, its report comes last and shows the mask for what was typed. -/
def Masks (links : Links σ) (m : Moment σ) (site : Callsite) (c : Command) : Prop :=
  (terms links m.recorder).takesCommands = true → ∀ response,
    (m.run (Recorder.execute links site c false)).1 = .ok response →
    ∃ earlier shown accepted, m.heard links site c = earlier ++
        [.handed (.command shown response.result response.isPassed .null) accepted] ∧
      Hides shown c

theorem exists_masked {m : Moment (Overheard σ)}
    (ht : (terms links m.recorder).takesCommands = true)
    (hr : m.recorder.switches.redactionDisabled = false) {c : Command} {response : Response}
    (hsecret :
      (m.run (liftM (hidesText links.overheard.send m.recorder.capabilities c))).1 = true)
    {answer : Bool}
    (hdone : (m.run (tellCommand links.overheard ⟨c, response⟩ .null)).1 = .ok answer) :
    ∃ earlier accepted,
      (m.run (tellCommand links.overheard ⟨c, response⟩ .null)).2.crossings = earlier ++
        [.handed (.command (masked c) response.result response.isPassed .null) accepted] := by
  have hclient : links.submit.isSome = true :=
    (Bool.and_eq_true_iff.mp (Bool.and_eq_true_iff.mp ht).2).1
  rw [run_tellCommand _ (terms_overheard links _ ▸ ht) hr] at hdone ⊢
  simp only [hsecret] at hdone ⊢
  cases hd : disguise true c with
  | error fault =>
    rw [hd] at hdone
    cases hdone
  | ok shown =>
    obtain rfl := eq_of_disguise hd
    have hx := links.crossings_hand
      (m.run (liftM (hidesText links.overheard.send m.recorder.capabilities c))).2.trail
      (.command (masked c) response.result response.isPassed .null)
    rw [if_pos hclient] at hx
    exact ⟨_, _, hx⟩

variable {m : Moment σ} {site : Callsite} {c : Command}

theorem Conceals.overheard (h : m.Conceals links site c)
    (ht : (terms links m.recorder).takesCommands = true) (response : Response)
    (ha : (m.overheard.run (liftM (links.overheard.send c).result)).1 = .ok response) :
    let due := ((m.overheard.run (liftM (links.overheard.send c).result)).2.run
      (ready links.overheard site)).2
    (due.run (liftM (hidesText links.overheard.send m.recorder.capabilities c))).1 = true := by
  have hop : ∀ client, Recording.Conducted client fun _ links => (do
      discard (liftM (links.send c).result)
      ready links site
      liftM (hidesText links.send m.recorder.capabilities c) : Recording _ Bool) :=
    fun _ => .seq (.forget (.outside (.send c))) fun _ =>
      .seq (ready_conducted site) fun _ => .outside (hidesText_conducted _ _)
  exact (Recording.Conducted.run_unheard hop links m.overheard).1.trans (h ht response ha)

theorem Conceals.masks (h : m.Conceals links site c)
    (hr : m.recorder.switches.redactionDisabled = false) (hw : site.insideWait = false)
    (hk : isRedactable c = true) : m.Masks links site c := by
  intro ht response hdone
  have hq := isQuit_of_redactable hk
  have hexecute : ∀ client, Recording.Conducted client fun _ links =>
      Recorder.execute links site c false := fun _ => execute_conducted site c false
  have hdone := (Recording.Conducted.run_unheard hexecute links m.overheard).1.trans hdone
  have hsecret := h.overheard ht response
  have hterms := terms_ready links.overheard
    (m.overheard.run (liftM (links.overheard.send c).result)).2 site
  rw [run_execute_direct _ _ hq hw] at hdone
  rw [heard, run_execute_direct _ _ hq hw]
  simp only at hdone hsecret ⊢
  have hrecorder : (m.overheard.run (liftM (links.overheard.send c).result)).2.recorder =
    m.recorder := rfl
  generalize m.overheard.run (liftM (links.overheard.send c).result) = sent at *
  obtain ⟨answer, sent⟩ := sent
  cases answer with
  | error fault => cases hdone
  | ok r =>
    obtain ⟨answer, htold, rfl⟩ := map_eq_ok_iff.mp hdone
    rw [terms_overheard, terms_overheard, hrecorder] at hterms
    simp only [crossings_reported]
    have hcaps : (sent.run (ready links.overheard site)).2.recorder.capabilities =
        m.recorder.capabilities := congrArg Terms.capabilities hterms
    obtain ⟨earlier, accepted, hx⟩ := exists_masked
      ((congrArg Terms.takesCommands hterms).trans ht)
      ((congrArg (·.switches.redactionDisabled) hterms).trans hr)
      (by rw [hcaps]; exact hsecret rfl) htold
    exact ⟨earlier, masked c, accepted, hx, masked_hides c⟩

theorem Masks.of_alike (h : m.Masks links site c) {m' : Moment τ} {c' : Command}
    (hc : c.AgreeApart typedKeys c')
    (hterms : terms links' m'.recorder = terms links m.recorder)
    (hanswer : (m'.run (Recorder.execute links' site c' false)).1 =
      (m.run (Recorder.execute links site c false)).1)
    (hcross : List.Forall₂ Crossing.Alike (m.heard links site c) (m'.heard links' site c')) :
    m'.Masks links' site c' := by
  intro ht response hdone
  obtain ⟨earlier, shown, accepted, hx, hshown⟩ :=
    h ((congrArg Terms.takesCommands hterms).symm.trans ht) response (hanswer.symm.trans hdone)
  have hreverse := List.forall₂_reverse_iff.mpr hcross
  rw [hx, List.reverse_concat, List.forall₂_cons_left_iff] at hreverse
  obtain ⟨last, rest, hlast, -, hy⟩ := hreverse
  cases hlast with
  | handed _ hsame =>
    obtain ⟨shown', rfl, hshown'⟩ := hshown.of_same hc hsame
    refine ⟨rest.reverse, shown', accepted, ?_, hshown'⟩
    rw [← List.reverse_cons, ← hy, List.reverse_reverse]

/-- Whatever a recorder has stashed and whichever test is running, what is typed into a secure
field makes no difference to anybody but the server: if the server answers two commands that
differ in it alike, and the lookups made for one, then the same is reported, kept and written
to the log for both. What is typed is no live object, of which one could be copied and the
other not. -/
theorem typed_text_never_interferes (hs : links.Silent) (hs' : links'.Silent)
    (hp : links'.submit.isSome = links.submit.isSome) {m : Moment σ} {m' : Moment τ}
    (hm : m'.recorder = m.recorder) (hr : m.recorder.switches.redactionDisabled = false)
    {site : Callsite} (hw : site.insideWait = false) {c c' : Command}
    (hk : isRedactable c = true) (hc : c.AgreeApart typedKeys c')
    (hcopy : c'.copyFault? = c.copyFault?) (hsecret : m.Conceals links site c)
    (ha : Crossing.Agree (m.heard links site c) (m'.heard links' site c')) :
    let done := m.run (Recorder.execute links site c false)
    let done' := m'.run (Recorder.execute links' site c' false)
    done'.1 = done.1 ∧ done'.2.recorder = done.2.recorder ∧
      List.Forall₂ Submission.Same ((m.heard links site c).filterMap Crossing.submission?)
        ((m'.heard links' site c').filterMap Crossing.submission?) ∧
      (∃ lines, done.2.trail.log = m.trail.log ++ lines ∧
        done'.2.trail.log = m'.trail.log ++ lines) ∧
      m.Masks links site c ∧ m'.Masks links' site c' := by
  have hstart : m.overheard.Even m.trail.log m'.trail.log m'.overheard :=
    ⟨hm, .nil, [], (List.append_nil _).symm, (List.append_nil _).symm⟩
  obtain ⟨hanswer, hrecorder, hcross, hlog⟩ := hstart.execute hs hs' hp hr hw hk hc hcopy
    hsecret.overheard ha
  have hexecute : ∀ c client, Recording.Conducted client fun _ links =>
      Recorder.execute links site c false := fun c _ => execute_conducted site c false
  obtain ⟨hd, hu⟩ := Recording.Conducted.run_unheard (hexecute c) links m.overheard
  obtain ⟨hd', hu'⟩ := Recording.Conducted.run_unheard (hexecute c') links' m'.overheard
  have hmasks := hsecret.masks hr hw hk
  have hterms : terms links' m'.recorder = terms links m.recorder := by
    rw [terms, terms, hm, hp]
  have hanswer := hd'.symm.trans (hanswer.trans hd)
  refine ⟨hanswer, ?_, Crossing.Alike.submissions hcross, ?_, hmasks,
    hmasks.of_alike hc hterms hanswer hcross⟩
  · exact (congrArg (·.recorder) hu').symm.trans (hrecorder.trans (congrArg (·.recorder) hu))
  · obtain ⟨lines, hl, hl'⟩ := hlog
    exact ⟨lines, (congrArg (·.trail.log) hu).symm.trans hl,
      (congrArg (·.trail.log) hu').symm.trans hl'⟩

end Interference

/-! ## Two passwords -/

def otherPasswordTyped : Command :=
  { passwordTyped with
    parameters :=
      .dict [("value", .str "swordfish"), ("id", .str "e1"), ("text", .str "swordfish")] }

def busyRecorder : Recorder :=
  let c : Command := ⟨.str "session-1", Command.sendKeysToActiveElement, .dict [("text", .str "a")]⟩
  { stash := [("", ⟨⟨c, Response.done c⟩, rfl⟩)], currentTest := some "signs in" }

def beforePasswordField (log : List LogLine) : Moment ScriptedLinks :=
  let server : ScriptedLinks := { responses := [(Command.elementAttribute, [.ok passwordField])] }
  ⟨busyRecorder, { outside := server, log }⟩

theorem silent_scriptedLinks (client : Bool) : (ScriptedLinks.links client).Silent where
  send c t := by
    change ((ScriptedLinks.send c).result.run t).2.log = t.log
    unfold ScriptedLinks.send
    simp only [Attempt.run_bind, Attempt.run_lift, Attempt.run_ofExcept]
    split
    all_goals
      rename_i h
      obtain ⟨-, rfl⟩ := Prod.mk.inj h
      rfl
  submit := by
    intro submit hs s t
    cases client with
    | false => cases hs
    | true =>
      cases hs
      rfl

theorem passwords_agree : passwordTyped.AgreeApart typedKeys otherPasswordTyped := by
  refine ⟨rfl, rfl, .dict fun key hk => ?_⟩
  simp only [typedKeys, List.mem_cons, List.not_mem_nil, or_false, not_or] at hk
  simp [Entries.get?_cons, hk.1, hk.2]

theorem password_concealed (log : List LogLine) :
    (beforePasswordField log).Conceals (ScriptedLinks.links true) (.within []) passwordTyped := by
  intro _ response hr
  cases hr
  rfl

theorem passwords_answered_alike (log log' : List LogLine) :
    Crossing.Agree ((beforePasswordField log).heard (ScriptedLinks.links true) (.within [])
      passwordTyped) ((beforePasswordField log').heard (ScriptedLinks.links true) (.within [])
        otherPasswordTyped) := by
  refine .of_forall₂ ?_
  exact .cons (fun _ => rfl) <| .cons (fun _ => rfl) <| .cons (fun _ => rfl) <|
    .cons (fun _ => rfl) <| .cons (fun _ => rfl) .nil

theorem passwords_reported_alike :
    let links := ScriptedLinks.links true
    let m := beforePasswordField []
    let m' := beforePasswordField [⟨.info, "Initializing new session...", none⟩]
    List.Forall₂ Submission.Same
        ((m.heard links (.within []) passwordTyped).filterMap Crossing.submission?)
        ((m'.heard links (.within []) otherPasswordTyped).filterMap Crossing.submission?) ∧
      m.Masks links (.within []) passwordTyped ∧
        m'.Masks links (.within []) otherPasswordTyped := by
  have hs := silent_scriptedLinks true
  obtain ⟨-, -, hsame, -, hm, hm'⟩ := typed_text_never_interferes hs hs rfl
    (m := beforePasswordField []) rfl rfl rfl rfl passwords_agree rfl (password_concealed [])
    (passwords_answered_alike [] [⟨.info, "Initializing new session...", none⟩])
  exact ⟨hsame, hm, hm'⟩

end Moment

end AgentReporting
