import AgentReporting.Client.Handshake
import AgentReporting.Proofs.Running
import Mathlib.Data.List.DropRight

/-! # Faults that escape a handshake

A handshake is documented to fail in three ways: the token is refused, a version is
obsolete, or the Agent cannot be talked to. Every other fault escapes, and it comes from
data of the Agent that is not of the kind its reading expects.
-/

namespace AgentReporting

variable {σ τ α β : Type}

/-- A token that is refused, an obsolete version, or trouble with talking to the Agent. -/
def Fault.isDocumented : Fault → Bool
  | kit (.invalidToken _) => true
  | kit (.obsoleteVersion _ _) => true
  | kit (.connect _) => true
  | _ => false

namespace Attempt

/-- Run on the trail, the attempt fails in a way that is not documented. -/
def Escapes (attempt : Attempt σ α) (trail : Trail σ) : Prop :=
  ∃ fault, (attempt.result.run trail).1 = .error fault ∧ fault.isDocumented = false

instance (attempt : Attempt σ α) (trail : Trail σ) : Decidable (attempt.Escapes trail) :=
  match h : (attempt.result.run trail).1 with
  | .ok _ => isFalse fun ⟨_, he, _⟩ => nomatch h.symm.trans he
  | .error fault => decidable_of_iff (fault.isDocumented = false)
      ⟨fun hd => ⟨fault, h, hd⟩, fun ⟨_, he, hd⟩ => Except.error.inj (h.symm.trans he) ▸ hd⟩

/-- Wherever it is run, the attempt gives an answer or a documented fault. -/
def Discloses (attempt : Attempt σ α) : Prop := ∀ trail, ¬ attempt.Escapes trail

variable {trail : Trail σ}

theorem not_escapes_iff {attempt : Attempt σ α} :
    ¬ attempt.Escapes trail ↔ (∃ a, (attempt.result.run trail).1 = .ok a) ∨
      ∃ fault, (attempt.result.run trail).1 = .error fault ∧ fault.isDocumented = true := by
  unfold Escapes
  cases (attempt.result.run trail).1 with
  | error fault => simp
  | ok a => simp

theorem not_escapes_pure (a : α) : ¬ Escapes (pure a) trail :=
  fun ⟨_, h, _⟩ => nomatch h

theorem escapes_throw_iff (fault : Fault) :
    Escapes (α := α) (throw fault) trail ↔ fault.isDocumented = false := by
  constructor
  · rintro ⟨_, ⟨⟩, h⟩
    exact h
  · exact fun h => ⟨fault, rfl, h⟩

theorem escapes_ofExcept_iff (answer : Except Fault α) :
    (ofExcept answer).Escapes trail ↔ ∃ fault, answer = .error fault ∧ fault.isDocumented = false :=
  .rfl

/-- A sequence escapes in its first part, or after it has given an answer. -/
theorem escapes_bind_iff (attempt : Attempt σ α) (f : α → Attempt σ β) :
    Escapes (attempt >>= f) trail ↔ attempt.Escapes trail ∨
      ∃ a, (attempt.result.run trail).1 = .ok a ∧ (f a).Escapes (attempt.result.run trail).2 := by
  unfold Escapes
  rw [run_bind]
  generalize attempt.result.run trail = done
  obtain ⟨answer, after⟩ := done
  cases answer with
  | error fault => simp
  | ok a => simp

theorem escapes_bind_of_ok {attempt : Attempt σ α} {a : α}
    (h : (attempt.result.run trail).1 = .ok a) (f : α → Attempt σ β) :
    Escapes (attempt >>= f) trail ↔ (f a).Escapes (attempt.result.run trail).2 := by
  rw [Escapes, Escapes, run_bind_of_ok h]

theorem escapes_lift_bind_iff (act : Act σ α) (f : α → Attempt σ β) :
    Escapes (lift act >>= f) trail ↔ (f (act.run trail).1).Escapes (act.run trail).2 := by
  rw [Escapes, Escapes, run_bind, run_lift]

theorem escapes_ite_iff {p : Prop} [Decidable p] (attempt other : Attempt σ α) :
    (if p then attempt else other).Escapes trail ↔
      p ∧ attempt.Escapes trail ∨ ¬ p ∧ other.Escapes trail := by
  split <;> simp_all

namespace Discloses

theorem answer (a : α) : Discloses (σ := σ) (pure a) := fun _ => not_escapes_pure a

theorem fault {fault : Fault} (h : fault.isDocumented = true) :
    Discloses (σ := σ) (α := α) (throw fault) := by
  intro trail he
  rw [escapes_throw_iff, h] at he
  cases he

theorem lift (act : Act σ α) : (Attempt.lift act).Discloses := fun _ ⟨_, h, _⟩ => nomatch h

theorem seq {attempt : Attempt σ α} {f : α → Attempt σ β} (h : attempt.Discloses)
    (hf : ∀ a, (f a).Discloses) : Attempt.Discloses (attempt >>= f) := by
  intro trail he
  rcases (escapes_bind_iff _ _).mp he with he | ⟨a, -, he⟩
  · exact h trail he
  · exact hf a _ he

theorem ite {p : Prop} [Decidable p] {attempt other : Attempt σ α} (h : attempt.Discloses)
    (ho : other.Discloses) : Attempt.Discloses (if p then attempt else other) := by
  split
  · exact h
  · exact ho

theorem escapes_iff {attempt : Attempt σ α} (h : attempt.Discloses) (f : α → Attempt σ β)
    {trail : Trail σ} : Escapes (attempt >>= f) trail ↔
      ∃ a, (attempt.result.run trail).1 = .ok a ∧ (f a).Escapes (attempt.result.run trail).2 :=
  (escapes_bind_iff attempt f).trans (or_iff_right (h trail))

end Discloses

theorem escapes_bind_left_iff (attempt : Attempt σ α) {f : α → Attempt σ β}
    (hf : ∀ a, (f a).Discloses) : Escapes (attempt >>= f) trail ↔ attempt.Escapes trail := by
  refine (escapes_bind_iff attempt f).trans (or_iff_left ?_)
  rintro ⟨a, -, h⟩
  exact hf a _ h

end Attempt

/-! ## Data of the Agent -/

def Undocumented (answer : Except Fault α) : Prop :=
  ∀ fault, answer = .error fault → fault.isDocumented = false

namespace Undocumented

theorem answer (a : α) : Undocumented (.ok a) := fun _ h => nomatch h

theorem fault {fault : Fault} (h : fault.isDocumented = false) :
    Undocumented (α := α) (.error fault) := by
  rintro _ ⟨⟩
  exact h

theorem seq {answer : Except Fault α} {f : α → Except Fault β} (h : Undocumented answer)
    (hf : ∀ a, Undocumented (f a)) : Undocumented (answer >>= f) := by
  cases answer with
  | error cause => exact .fault (h cause rfl)
  | ok a => exact hf a

theorem each {f : α → Except Fault β} (hf : ∀ a, Undocumented (f a)) (items : List α) :
    Undocumented (items.mapM f) := by
  induction items with
  | nil => exact .answer _
  | cons item rest ih =>
    rw [List.mapM_cons]
    exact .seq (hf item) fun b => .seq ih fun bs => .answer _

theorem stop {fault : Fault} (h : fault.isDocumented = false) (f : α → Except Fault β) :
    Undocumented (throw fault >>= f) := .fault h

theorem ite {p : Prop} [Decidable p] {answer other : Except Fault α} (h : Undocumented answer)
    (ho : Undocumented other) : Undocumented (if p then answer else other) := by
  split
  · exact h
  · exact ho

theorem escapes_iff {answer : Except Fault α} (h : Undocumented answer) {trail : Trail σ} :
    (Attempt.ofExcept answer).Escapes trail ↔ ∃ fault, answer = .error fault := by
  constructor
  · rintro ⟨fault, he, -⟩
    exact ⟨fault, he⟩
  · rintro ⟨fault, he⟩
    exact ⟨fault, he, h fault he⟩

end Undocumented

namespace Value

/-- A value that is taken for a text though it is none; nothing at all is taken for no text. -/
def isForeignText (v : Value) : Bool := v.truthy && !v.isText

theorem isForeignText_str (text : String) : (str text).isForeignText = false :=
  Bool.and_false _

theorem isForeignText_of_ne_str {v : Value} (h : ∀ text, v ≠ .str text) :
    v.isForeignText = v.truthy := by
  cases v with
  | str text => exact absurd rfl (h text)
  | _ => exact Bool.and_true _

theorem wholeNumber_undocumented (v : Value) : Undocumented v.wholeNumber := by
  unfold wholeNumber
  split
  · exact .answer _
  · exact .answer _
  · split
    · exact .answer _
    · split
      · exact .fault rfl
      · exact .fault rfl
  · split
    · exact .answer _
    · exact .fault rfl
  · exact .fault rfl

theorem iterated_undocumented (v : Value) : Undocumented v.iterated := by
  unfold iterated
  split
  · exact .answer _
  · exact .answer _
  · exact .answer _
  · exact .fault rfl

theorem asPair_undocumented (position : Nat) (item : Value) :
    Undocumented (asPair position item) := by
  unfold asPair
  split
  · exact .fault rfl
  · rename_i key value _
    cases key <;> first | exact .answer _ | exact .fault rfl
  · exact .fault rfl

theorem asEntries_undocumented (v : Value) : Undocumented v.asEntries := by
  unfold asEntries
  split
  · exact .answer _
  · split
    · exact .answer _
    · refine .seq (iterated_undocumented _) fun items => ?_
      exact .seq (.each (fun (item, position) => asPair_undocumented position item) _)
        fun pairs => .answer _

end Value

/-! ## Addresses -/

theorem Url.normalizeHost_undocumented (host : List Char) : Undocumented (normalizeHost host) := by
  unfold normalizeHost
  refine .ite (.answer _) (.ite (.ite (.answer _) (.fault rfl)) ?_)
  exact .ite (.ite (.answer _) (.fault rfl)) (.ite (.answer _) (.fault rfl))

theorem Url.normalizePort_undocumented (scheme : String) (port : List Char) :
    Undocumented (normalizePort scheme port) := by
  unfold normalizePort
  refine .ite (.answer _) ?_
  dsimp only
  split
  · exact .fault rfl
  · exact .answer _

theorem Url.ofString_undocumented (s : String) : Undocumented (ofString s) := by
  unfold ofString
  refine .ite (.stop rfl _) ?_
  dsimp only
  split
  · exact .stop rfl _
  · refine .seq (normalizeHost_undocumented _) fun host =>
      .seq (normalizePort_undocumented _ _) fun port => ?_
    exact .ite (.ite (.stop rfl _) (.ite (.stop rfl _) (.answer _))) (.answer _)

theorem Address.resolve_undocumented (config : Config) (address : Option String) :
    Undocumented (resolve config address) := by
  refine .seq (Url.ofString_undocumented _) fun url => ?_
  exact .ite (.stop rfl _) (.answer _)

theorem Address.resolve_ne_empty {config : Config} {address : Option String} {text : String}
    (h : resolve config address = .ok text) : text ≠ "" := by
  simp only [resolve] at h
  cases hu : Url.ofString ((Config.nonEmpty? address).getD config.agentUrl) with
  | error fault =>
    rw [hu] at h
    cases h
  | ok url =>
    rw [hu] at h
    change (if _ then _ else _) = _ at h
    split at h
    · cases h
    · rename_i hs
      have ht : String.ofList (Text.trimEndBy (· == '/') url.toText.toList) = text :=
        Except.ok.inj h
      have hmem : 'h' ∈ url.toText.toList := by
        have hscheme : url.scheme = "http" ∨ url.scheme = "https" := by
          by_cases h : url.scheme = "http"
          · exact .inl h
          · simp_all
        rcases hscheme with hs | hs <;> simp [Url.toText, hs]
      intro he
      have hnil : url.toText.toList.rdropWhile (· == '/') = [] :=
        (String.toList_ofList (l := _)).symm.trans (congrArg String.toList (ht.trans he))
      exact absurd (List.rdropWhile_eq_nil_iff.mp hnil 'h' hmem) (by decide)

theorem Address.resolve_some (config other : Config) {text : String} (h : text ≠ "") :
    resolve config (some text) = resolve other (some text) := by
  have hkept : Config.nonEmpty? (some text) = some text := by
    simp [Config.nonEmpty?, h]
  unfold resolve
  rw [hkept]
  rfl

/-! ## Versions and dialects -/

theorem Version.valueAtLeast_escapes_iff (version : Value) (minimum : String) {trail : Trail σ} :
    (valueAtLeast version minimum).Escapes trail ↔ version.isForeignText = true := by
  unfold valueAtLeast
  split
  · rw [Value.isForeignText_str]
    exact iff_of_false (Attempt.Discloses.lift _ _) Bool.false_ne_true
  · rename_i hv
    rw [Value.isForeignText_of_ne_str hv, Attempt.escapes_ite_iff, Attempt.escapes_throw_iff]
    simp [Attempt.not_escapes_pure, Fault.noAttribute, Fault.isDocumented]

theorem Version.run_textAtLeast {text minimum : String} {current required : Version}
    (hc : ofString text = .ok current) (hr : ofString minimum = .ok required) (trail : Trail σ) :
    (textAtLeast text minimum).run trail = (atLeast current required, trail) := by
  unfold textAtLeast
  split
  · rename_i he
    obtain rfl : text = "" := String.isEmpty_iff.mp he
    cases hc
  · rw [hc, hr]
    rfl

theorem Version.valueAtLeast_eq_true_iff (version : Value) {minimum : String} {required : Version}
    (hr : ofString minimum = .ok required) {trail : Trail σ} :
    ((valueAtLeast version minimum).result.run trail).1 = .ok true ↔
      ∃ text current, version = .str text ∧ ofString text = .ok current ∧
        atLeast current required = true := by
  unfold valueAtLeast
  split
  · rename_i text
    rw [Attempt.run_lift]
    cases hc : ofString text with
    | error fault =>
      refine iff_of_false (fun h => ?_) ?_
      · unfold textAtLeast at h
        rw [hc] at h
        split at h <;> cases h
      · rintro ⟨_, _, ⟨⟩, hc', -⟩
        rw [hc] at hc'
        cases hc'
    | ok current =>
      rw [run_textAtLeast hc hr]
      constructor
      · intro h
        exact ⟨text, current, rfl, hc, Except.ok.inj h⟩
      · rintro ⟨_, _, ⟨⟩, hc', h⟩
        rw [hc] at hc'
        cases hc'
        exact congrArg Except.ok h
  · rename_i hv
    refine iff_of_false (fun h => ?_) fun ⟨text, _, ht, _⟩ => hv text ht
    split at h <;> cases h

namespace Client

theorem dialectOf_escapes_iff (v : Value) {trail : Trail σ} :
    (Attempt.ofExcept (dialectOf v)).Escapes trail ↔ v.isForeignText = true := by
  rw [Attempt.escapes_ofExcept_iff]
  unfold dialectOf Dialect.ofValue
  split
  · rw [Value.isForeignText_str]
    split
    · simp [Except.mapError]
    · split
      · simp [Except.mapError]
      · simp [Except.mapError, Fault.isValueFault, Fault.connect, Fault.isDocumented]
  · rename_i hv
    rw [Value.isForeignText_of_ne_str hv]
    split <;> simp_all [Except.mapError, Fault.noAttribute, Fault.isValueFault, Fault.isDocumented]

end Client

end AgentReporting
