import AgentReporting.Proofs.Recorder.Dialogue
import AgentReporting.Proofs.Running
import Mathlib.Data.List.Forall2

/-! # Overheard links

What crosses the links of a recorder is overheard, with what comes back. Two runs of one
dialogue say the same as long as they are told the same, however different their outsides are.
-/

namespace AgentReporting

variable {σ τ α β : Type}

/-- What crosses links: a command with its answer, or a report that was accepted or refused. -/
inductive Crossing where
  | asked (c : Command) (answer : Except Fault Response)
  | handed (s : Submission) (accepted : Bool)

def Crossing.submission? : Crossing → Option Submission
  | .asked _ _ => none
  | .handed s _ => some s

structure Overheard (σ : Type) where
  outside : σ
  crossings : List Crossing := []

namespace Overheard

def within (act : Act σ α) : Act (Overheard σ) α :=
  Act.within Overheard.outside (fun outside w => { w with outside }) act

def note (crossing : Crossing) : Act (Overheard σ) Unit :=
  Act.modifyOutside fun w => { w with crossings := w.crossings ++ [crossing] }

end Overheard

def Links.overheard (links : Links σ) : Links (Overheard σ) where
  send c := Attempt.ofResult do
    let answer ← Overheard.within (links.send c).result
    Overheard.note (.asked c answer)
    return answer
  submit := links.submit.map fun submit s => do
    let accepted ← Overheard.within (submit s)
    Overheard.note (.handed s accepted)
    return accepted

/-- Nothing that passes over the links writes to the log by itself. -/
structure Links.Silent (links : Links σ) : Prop where
  send : ∀ c t, ((links.send c).result.run t).2.log = t.log
  submit : ∀ submit, links.submit = some submit → ∀ s t, ((submit s).run t).2.log = t.log

namespace Trail

def crossings (t : Trail (Overheard σ)) : List Crossing := t.outside.crossings

def unheard (t : Trail (Overheard σ)) : Trail σ := { t with outside := t.outside.outside }

end Trail

namespace Links

variable (links : Links σ) (t : Trail (Overheard σ))

theorem isSome_overheard : links.overheard.submit.isSome = links.submit.isSome := by
  simp [overheard]

theorem hand_eq_pure (h : links.submit.isSome = false) (s : Submission) :
    links.hand s = pure true := by
  rw [Option.isSome_eq_false_iff, Option.isNone_iff_eq_none] at h
  rw [hand, h]

theorem crossings_send (c : Command) : ((links.overheard.send c).result.run t).2.crossings =
    t.crossings ++ [.asked c ((links.overheard.send c).result.run t).1] := rfl

theorem crossings_hand (s : Submission) : ((links.overheard.hand s).run t).2.crossings =
    t.crossings ++
      if links.submit.isSome then [.handed s ((links.overheard.hand s).run t).1] else [] := by
  unfold hand overheard
  cases links.submit with
  | none => exact (List.append_nil _).symm
  | some submit => rfl

theorem crossings_grow_hand (s : Submission) :
    t.crossings <+: ((links.overheard.hand s).run t).2.crossings := by
  rw [crossings_hand]
  exact List.prefix_append ..

theorem hand_unheard (s : Submission) :
    ((links.overheard.hand s).run t).1 = ((links.hand s).run t.unheard).1 ∧
      ((links.overheard.hand s).run t).2.unheard = ((links.hand s).run t.unheard).2 := by
  unfold hand overheard
  cases links.submit with
  | none => exact ⟨rfl, rfl⟩
  | some submit => exact ⟨rfl, rfl⟩

theorem Silent.overheard {links : Links σ} (h : links.Silent) : links.overheard.Silent where
  send c t := h.send c t.unheard
  submit := by
    intro submit hs s t
    obtain ⟨inner, hi, rfl⟩ := Option.map_eq_some_iff.mp hs
    exact h.submit inner hi s t.unheard

theorem Silent.hand {links : Links σ} (h : links.Silent) (s : Submission) (t : Trail σ) :
    ((links.hand s).run t).2.log = t.log := by
  unfold Links.hand
  cases hs : links.submit with
  | none => rfl
  | some submit => exact h.submit submit hs s t

end Links

theorem Links.overheard_mirrored (links : Links σ) :
    links.Mirrored Trail.unheard links.overheard where
  client := links.isSome_overheard
  send _ _ := ⟨rfl, rfl⟩
  hand s t := links.hand_unheard t s
  write _ _ := ⟨rfl, rfl⟩

namespace Dialogue

variable (links : Links σ)

theorem crossings_grow (d : Dialogue α) (t : Trail (Overheard σ)) :
    t.crossings <+: ((d.run links.overheard).run t).2.crossings := by
  induction d generalizing t with
  | answer a => exact List.prefix_rfl
  | ask c next ih =>
    have hp : t.crossings <+: ((links.overheard.send c).result.run t).2.crossings :=
      List.prefix_append ..
    exact hp.trans (ih _ _)
  | hand s next ih => exact (links.crossings_grow_hand t s).trans (ih _ _)
  | write line next ih => exact ih ((Act.write line).run t).2

end Dialogue

/-! ## Equal answers -/

/-- The same dictionaries, apart from what is under some keys. -/
inductive Value.AgreeApart (keys : List String) : Value → Value → Prop where
  | dict {xs ys : Entries Value} :
      (∀ key, key ∉ keys → Entries.get? ys key = Entries.get? xs key) →
      AgreeApart keys (.dict xs) (.dict ys)
  | paired {value : Value} {xs ys : Entries Value} :
      (∀ key, key ∉ keys → Entries.get? ys key = Entries.get? xs key) →
      AgreeApart keys (.paired value xs) (.paired value ys)

namespace Value.AgreeApart

variable {keys : List String} {v w : Value}

theorem field?_eq (h : AgreeApart keys v w) {key : String} (hk : key ∉ keys) :
    w.field? key = v.field? key := by
  cases h with
  | dict hxy => exact hxy key hk
  | paired hxy => exact hxy key hk

theorem isDict (h : AgreeApart keys v w) : v.isDict = true := by
  cases h with
  | dict => rfl
  | paired => rfl

end Value.AgreeApart

structure Command.AgreeApart (keys : List String) (c c' : Command) : Prop where
  session : c'.sessionId = c.sessionId
  name : c'.name = c.name
  parameters : Value.AgreeApart keys c.parameters c'.parameters

def Redaction.typedKeys : List String := ["text", "value"]

/-- The same command, or one that differs in what is typed. -/
def Command.Corresponds (c c' : Command) : Prop := c' = c ∨ c.AgreeApart Redaction.typedKeys c'

/-- The same reports; dictionaries of parameters are the same in any order of their keys. -/
inductive Submission.Same : Submission → Submission → Prop where
  | refl (s : Submission) : Same s s
  | command {c c' : Command} (result : Value) (passed : Bool) (shot : Value) :
      c.AgreeApart [] c' → Same (.command c result passed shot) (.command c' result passed shot)

namespace Crossing

/-- What crosses the links in two runs comes to the same if it corresponds. -/
def Consistent : Crossing → Crossing → Prop
  | asked c answer, asked c' answer' => c.Corresponds c' → answer' = answer
  | handed s accepted, handed s' accepted' => s.Same s' → accepted' = accepted
  | _, _ => True

/-- As far as two runs both go, what crosses the links is consistent one by one. -/
def Agree (xs ys : List Crossing) : Prop :=
  ∀ (k : Nat) (x y : Crossing), xs[k]? = some x → ys[k]? = some y → x.Consistent y

/-- What crosses the links in two runs corresponds, and comes to the same. -/
inductive Alike : Crossing → Crossing → Prop where
  | asked {c c' : Command} (answer : Except Fault Response) : c.Corresponds c' →
      Alike (asked c answer) (asked c' answer)
  | handed {s s' : Submission} (accepted : Bool) : s.Same s' →
      Alike (handed s accepted) (handed s' accepted)

variable {xs ys zs ws : List Crossing} {x y : Crossing}

theorem Alike.submissions (h : List.Forall₂ Alike xs ys) :
    List.Forall₂ Submission.Same (xs.filterMap submission?) (ys.filterMap submission?) := by
  induction h with
  | nil => exact .nil
  | cons hxy _ ih =>
    cases hxy with
    | asked => exact ih
    | handed _ hs => exact .cons hs ih

theorem Agree.of_prefix (h : Agree zs ws) (hx : xs <+: zs) (hy : ys <+: ws) : Agree xs ys := by
  obtain ⟨more, rfl⟩ := hx
  obtain ⟨more', rfl⟩ := hy
  intro k x y hkx hky
  obtain ⟨hk, -⟩ := List.getElem?_eq_some_iff.mp hkx
  obtain ⟨hk', -⟩ := List.getElem?_eq_some_iff.mp hky
  exact h k x y ((List.getElem?_append_left hk).trans hkx)
    ((List.getElem?_append_left hk').trans hky)

theorem Agree.of_forall₂ (h : List.Forall₂ Consistent xs ys) : Agree xs ys := by
  induction h with
  | nil =>
    intro k x y hx
    cases hx
  | cons hxy _ ih =>
    intro k x y hx hy
    cases k with
    | zero =>
      obtain rfl := Option.some.inj hx
      obtain rfl := Option.some.inj hy
      exact hxy
    | succ k => exact ih k x y hx hy

theorem Agree.last (h : Agree (xs ++ [x]) (ys ++ [y])) (hl : xs.length = ys.length) :
    x.Consistent y :=
  h xs.length x y List.getElem?_concat_length (hl ▸ List.getElem?_concat_length)

end Crossing

/-- Two runs have gone the same way since their logs were those given. -/
structure Trail.Even (log log' : List LogLine) (t : Trail (Overheard σ))
    (t' : Trail (Overheard τ)) : Prop where
  crossings : List.Forall₂ Crossing.Alike t.crossings t'.crossings
  written : ∃ lines, t.log = log ++ lines ∧ t'.log = log' ++ lines

namespace Trail.Even

open Crossing

variable {links : Links σ} {links' : Links τ} {log log' : List LogLine}
variable {t : Trail (Overheard σ)} {t' : Trail (Overheard τ)} {u : Trail (Overheard σ)}
variable {u' : Trail (Overheard τ)}

theorem concat (h : Even log log' t t') {x y : Crossing} (hxy : Alike x y)
    (hx : u.crossings = t.crossings ++ [x]) (hy : u'.crossings = t'.crossings ++ [y])
    (hl : u.log = t.log) (hl' : u'.log = t'.log) : Even log log' u u' where
  crossings := by
    rw [hx, hy]
    exact List.rel_append h.crossings (.cons hxy .nil)
  written := by
    rw [hl, hl']
    exact h.written

theorem ask (h : Even log log' t t') (hs : links.Silent) (hs' : links'.Silent) {c c' : Command}
    (hc : c.Corresponds c') (ha : Agree ((links.overheard.send c).result.run t).2.crossings
      ((links'.overheard.send c').result.run t').2.crossings) :
    ((links'.overheard.send c').result.run t').1 = ((links.overheard.send c).result.run t).1 ∧
      Even log log' ((links.overheard.send c).result.run t).2
        ((links'.overheard.send c').result.run t').2 := by
  have hx := links.crossings_send t c
  have hy := links'.crossings_send t' c'
  rw [hx, hy] at ha
  have hr : ((links'.overheard.send c').result.run t').1 =
      ((links.overheard.send c).result.run t).1 := ha.last h.crossings.length_eq hc
  rw [hr] at hy
  exact ⟨hr, h.concat (.asked _ hc) hx hy (hs.overheard.send c t) (hs'.overheard.send c' t')⟩

theorem hand (h : Even log log' t t') (hs : links.Silent) (hs' : links'.Silent)
    (hp : links'.submit.isSome = links.submit.isSome) {s s' : Submission} (hc : s.Same s')
    (ha : Agree ((links.overheard.hand s).run t).2.crossings
      ((links'.overheard.hand s').run t').2.crossings) :
    ((links'.overheard.hand s').run t').1 = ((links.overheard.hand s).run t).1 ∧
      Even log log' ((links.overheard.hand s).run t).2
        ((links'.overheard.hand s').run t').2 := by
  have hx := links.crossings_hand t s
  have hy := links'.crossings_hand t' s'
  rw [hp] at hy
  cases hi : links.submit.isSome with
  | false =>
    have hh := links.overheard.hand_eq_pure (links.isSome_overheard.trans hi) s
    have hh' := links'.overheard.hand_eq_pure (links'.isSome_overheard.trans (hp.trans hi)) s'
    rw [hh, hh']
    exact ⟨rfl, h⟩
  | true =>
    rw [hi, if_pos rfl] at hx hy
    rw [hx, hy] at ha
    have hr : ((links'.overheard.hand s').run t').1 = ((links.overheard.hand s).run t).1 :=
      ha.last h.crossings.length_eq hc
    rw [hr] at hy
    exact ⟨hr, h.concat (.handed _ hc) hx hy (hs.overheard.hand s t) (hs'.overheard.hand s' t')⟩

theorem write (h : Even log log' t t') (line : LogLine) :
    Even log log' ((Act.write line).run t).2 ((Act.write line).run t').2 := by
  obtain ⟨lines, hl, hl'⟩ := h.written
  refine ⟨h.crossings, lines ++ [line], ?_, ?_⟩
  · rw [← List.append_assoc, ← hl]
    rfl
  · rw [← List.append_assoc, ← hl']
    rfl

end Trail.Even

namespace Dialogue

open Crossing

variable {links : Links σ} {links' : Links τ} {log log' : List LogLine}

/-- Two runs of one dialogue go the same way as long as they are told the same. -/
theorem even (hs : links.Silent) (hs' : links'.Silent)
    (hp : links'.submit.isSome = links.submit.isSome) (d : Dialogue α) {t : Trail (Overheard σ)}
    {t' : Trail (Overheard τ)} (h : Trail.Even log log' t t')
    (ha : Agree ((d.run links.overheard).run t).2.crossings
      ((d.run links'.overheard).run t').2.crossings) :
    ((d.run links'.overheard).run t').1 = ((d.run links.overheard).run t).1 ∧
      Trail.Even log log' ((d.run links.overheard).run t).2
        ((d.run links'.overheard).run t').2 := by
  induction d generalizing t t' with
  | answer a => exact ⟨rfl, h⟩
  | ask c next ih =>
    -- crossings only grow, so what is known of all of them holds up to this one
    obtain ⟨hr, hn⟩ := h.ask hs hs' (.inl rfl)
      (ha.of_prefix (crossings_grow links (next _) _) (crossings_grow links' (next _) _))
    rw [run, run, Act.run_bind, Act.run_bind, hr] at ha ⊢
    exact ih _ hn ha
  | hand s next ih =>
    obtain ⟨hr, hn⟩ := h.hand hs hs' hp (.refl s)
      (ha.of_prefix (crossings_grow links (next _) _) (crossings_grow links' (next _) _))
    rw [run, run, Act.run_bind, Act.run_bind, hr] at ha ⊢
    exact ih _ hn ha
  | write line next ih => exact ih (h.write line) ha

end Dialogue

/-! ## Operations on a recorder -/

namespace Moment

def crossings (m : Moment (Overheard σ)) : List Crossing := m.trail.crossings

def unheard (m : Moment (Overheard σ)) : Moment σ := ⟨m.recorder, m.trail.unheard⟩

def overheard (m : Moment σ) : Moment (Overheard σ) :=
  ⟨m.recorder, { m.trail with outside := { outside := m.trail.outside } }⟩

structure Even (log log' : List LogLine) (m : Moment (Overheard σ)) (m' : Moment (Overheard τ)) :
    Prop where
  recorder : m'.recorder = m.recorder
  trail : Trail.Even log log' m.trail m'.trail

end Moment

namespace Recording.Conducted

variable {op : (σ : Type) → Links σ → Recording σ α} (h : ∀ client, Conducted client op)
variable (links : Links σ) (m : Moment (Overheard σ))

include h

theorem run_unheard :
    (m.run (op _ links.overheard)).1 = (m.unheard.run (op _ links)).1 ∧
      (m.run (op _ links.overheard)).2.unheard = (m.unheard.run (op _ links)).2 :=
  m.run_mirrored (mirrored h links.overheard_mirrored m.recorder)

theorem crossings_grow : m.crossings <+: (m.run (op _ links.overheard)).2.crossings := by
  obtain ⟨d, hd⟩ := h links.submit.isSome m.recorder
  have hp := d.crossings_grow links m.trail
  rwa [← hd _ links.overheard links.isSome_overheard] at hp

variable {links m}

theorem even {links' : Links τ} (hs : links.Silent) (hs' : links'.Silent)
    (hp : links'.submit.isSome = links.submit.isSome) {log log' : List LogLine}
    {m' : Moment (Overheard τ)} (he : m.Even log log' m')
    (ha : Crossing.Agree (m.run (op _ links.overheard)).2.crossings
      (m'.run (op _ links'.overheard)).2.crossings) :
    (m'.run (op _ links'.overheard)).1 = (m.run (op _ links.overheard)).1 ∧
      (m.run (op _ links.overheard)).2.Even log log' (m'.run (op _ links'.overheard)).2 := by
  obtain ⟨d, hd⟩ := h links.submit.isSome m.recorder
  have ho := hd _ links.overheard links.isSome_overheard
  have ho' := hd _ links'.overheard (links'.isSome_overheard.trans hp)
  rw [← he.recorder] at ho'
  have hn := d.even hs hs' hp he.trail
  rw [← ho, ← ho'] at hn
  obtain ⟨hr, ht⟩ := hn ha
  exact ⟨congrArg Prod.fst hr, congrArg Prod.snd hr, ht⟩

end Recording.Conducted

end AgentReporting
