import AgentReporting.Addon.Execution
import AgentReporting.Proofs.Entries
import AgentReporting.Proofs.Running
import AgentReporting.Record.Basic
import Mathlib.Data.List.Forall2

/-! # Outputs of addon actions

The entries of an answer are read in order. Each output ends with the last value that was sent
for it, converted to its type, and every other field stays as it was. An entry that does not fit
ends the reading, and what the entries before it have given is kept.
-/

namespace AgentReporting

theorem Value.isDict_of_get {v : Value} {key : String} (h : (v.get key).truthy = true) :
    v.isDict = true := by
  by_contra hd
  have hf : v.fields? = none := by simpa [isDict] using hd
  rw [get, field?, hf] at h
  cases h

namespace Addon

variable {action after : Action} {field : Field} {item : Value} {items : List Value}

/-! ## Fields -/

def Action.Distinct (action : Action) : Prop := (action.fields.map (·.name)).Nodup

namespace Action

theorem Distinct.eq {other : Field} (hd : action.Distinct) (hf : field ∈ action.fields)
    (ho : other ∈ action.fields) (hn : field.name = other.name) : field = other :=
  List.inj_on_of_nodup_map hd hf ho hn

theorem Distinct.typeOf_eq (hd : action.Distinct) (hf : field ∈ action.fields) :
    action.typeOf field.name = field.type := by
  unfold typeOf
  cases hfound : action.fields.find? (·.name == field.name) with
  | none => exact absurd (List.find?_eq_none.mp hfound field hf) (by simp)
  | some found =>
    have hn : found.name = field.name := by simpa using List.find?_some hfound
    rw [hd.eq (List.mem_of_find?_eq_some hfound) hf hn]
    rfl

theorem mem_outputs_iff {name : String} : name ∈ action.outputs ↔
    ∃ field ∈ action.fields, field.direction = .output ∧ field.name = name := by
  simp [outputs, namesOf, and_assoc]

theorem Distinct.assign (hd : action.Distinct) (name : String) (value : Value) :
    (action.assign name value).Distinct := by
  have hnames : (action.assign name value).fields.map (·.name) = action.fields.map (·.name) := by
    rw [Action.assign, List.map_map]
    refine List.map_congr_left fun field _ => ?_
    dsimp only [Function.comp_apply]
    split <;> rfl
  rwa [Distinct, hnames]

end Action

/-! ## Entries -/

def outputOf? (item : Value) : Option String :=
  match item.get "name" with
  | .str name => if !name.isEmpty && (item.get "output").truthy then some name else none
  | _ => none

structure IsFor (item : Value) (field : Field) : Prop where
  isOutput : field.direction = .output
  named : outputOf? item = some field.name

/-- An entry that ends the reading: its value is no number where one is declared, or its name
cannot be looked up. -/
inductive Unfit (action : Action) (item : Value) (fault : Fault) : Prop where
  | value {field : Field} (hf : field ∈ action.fields) (hi : IsFor item field)
      (hv : convert field.type (item.get "value") = .error fault)
  | name (ho : (item.get "output").truthy = true)
      (hn : checkHashable (item.get "name") = .error fault)

theorem outputOf?_eq_some_iff {name : String} : outputOf? item = some name ↔
    item.get "name" = .str name ∧ name ≠ "" ∧ (item.get "output").truthy = true := by
  unfold outputOf?
  split
  · rename_i found hf
    simp only [hf, Option.ite_none_right_eq_some, Bool.and_eq_true, Bool.not_eq_true',
      String.isEmpty_eq_false_iff, Option.some.injEq, Value.str.injEq]
    constructor
    · rintro ⟨⟨hne, ho⟩, rfl⟩
      exact ⟨rfl, hne, ho⟩
    · rintro ⟨rfl, hne, ho⟩
      exact ⟨⟨hne, ho⟩, rfl⟩
  · rename_i hf
    exact iff_of_false (fun h => nomatch h) fun h => hf _ h.1

theorem resultOf?_eq_some_iff {result : Result} : Answer.resultOf? item = some result ↔
    (item.isDict = true ∧ (item.get "name").truthy = true) ∧
      ⟨item.get "name", item.get "value", (item.get "output").truthy⟩ = result := by
  simp [Answer.resultOf?]

theorem truthy_of_resultOf? (h : Answer.resultOf? item = none) :
    (item.get "name").truthy = false := by
  by_contra hn
  rw [Bool.not_eq_false] at hn
  exact Option.some_ne_none _
    ((resultOf?_eq_some_iff.mpr ⟨⟨Value.isDict_of_get hn, hn⟩, rfl⟩).symm.trans h)

theorem outputOf?_of_resultOf? (h : Answer.resultOf? item = none) : outputOf? item = none := by
  refine Option.eq_none_iff_forall_ne_some.mpr fun name ho => ?_
  obtain ⟨hname, hne, -⟩ := outputOf?_eq_some_iff.mp ho
  have hn := truthy_of_resultOf? h
  rw [hname] at hn
  exact hne (by simpa [Value.truthy] using hn)

theorem not_isFor_of_resultOf? (h : Answer.resultOf? item = none) : ¬ IsFor item field :=
  fun hi => Option.some_ne_none _ (hi.named.symm.trans (outputOf?_of_resultOf? h))

/-! ## What is received -/

inductive Field.Receives (items : List Value) (field : Field) : Field → Prop where
  | nothing (h : ∀ item ∈ items, ¬ IsFor item field) : Receives items field field
  | last {earlier later : List Value} {item value : Value} (hs : items = earlier ++ item :: later)
      (hi : IsFor item field) (hl : ∀ other ∈ later, ¬ IsFor other field)
      (hv : convert field.type (item.get "value") = .ok value) :
      Receives items field { field with value }

/-- What the entries make of an action: of each field the same, and of nothing else anything. -/
structure Action.Receives (items : List Value) (action after : Action) : Prop where
  same : { after with fields := action.fields } = action
  fields : List.Forall₂ (Field.Receives items) action.fields after.fields

namespace Field.Receives

theorem cons_of_not_isFor {after : Field} (h : Receives items field after)
    (hi : ¬ IsFor item field) : Receives (item :: items) field after := by
  cases h with
  | nothing h => exact .nothing (List.forall_mem_cons.mpr ⟨hi, h⟩)
  | @last earlier later entry _ hs hi' hl hv =>
    have hcons : item :: items = (item :: earlier) ++ entry :: later := congrArg (item :: ·) hs
    exact .last hcons hi' hl hv

theorem cons_of_isFor {after : Field} {value : Value}
    (h : Receives items { field with value } after) (hi : IsFor item field)
    (hv : convert field.type (item.get "value") = .ok value) :
    Receives (item :: items) field after := by
  cases h with
  | nothing h =>
    exact .last (List.nil_append (item :: items)).symm hi
      (fun other ho hf => h other ho ⟨hf.1, hf.2⟩) hv
  | @last earlier later entry _ hs hi' hl hv' =>
    have hcons : item :: items = (item :: earlier) ++ entry :: later := congrArg (item :: ·) hs
    exact .last hcons ⟨hi'.1, hi'.2⟩ (fun other ho hf => hl other ho ⟨hf.1, hf.2⟩) hv'

end Field.Receives

namespace Action.Receives

theorem refl (action : Action) : action.Receives [] action :=
  ⟨rfl, List.forall₂_same.mpr fun _ _ => .nothing nofun⟩

theorem cons_of_idle (h : action.Receives items after)
    (hi : ∀ field ∈ action.fields, ¬ IsFor item field) : action.Receives (item :: items) after := by
  refine ⟨h.same, ?_⟩
  have hboth := (List.forall₂_and_left _ _).mpr ⟨hi, h.fields⟩
  exact hboth.imp fun field after h => h.2.cons_of_not_isFor h.1

theorem cons_of_assign {value : Value} (hd : action.Distinct) (hf : field ∈ action.fields)
    (hi : IsFor item field) (hv : convert field.type (item.get "value") = .ok value)
    (h : (action.assign field.name value).Receives items after) :
    action.Receives (item :: items) after := by
  refine ⟨?_, ?_⟩
  · have hsame := congrArg (fun assigned => { assigned with fields := action.fields }) h.same
    exact hsame
  · have hfields := h.fields
    rw [Action.assign, List.forall₂_map_left_iff] at hfields
    have hboth := (List.forall₂_and_left _ _).mpr ⟨fun _ h => h, hfields⟩
    refine hboth.imp fun other after h => ?_
    obtain ⟨ho, h⟩ := h
    by_cases hn : other.name = field.name
    · obtain rfl := hd.eq ho hf hn
      rw [if_pos (beq_self_eq_true _)] at h
      exact h.cons_of_isFor hi hv
    · rw [if_neg (by simpa using hn)] at h
      refine h.cons_of_not_isFor fun h' => hn ?_
      exact Option.some.inj (h'.named.symm.trans hi.named)

end Action.Receives

/-! ## Entries are read -/

inductive Action.Step (action : Action) (item : Value) : Except Fault Action → Prop where
  | idle (h : ∀ field ∈ action.fields, ¬ IsFor item field) : Step action item (.ok action)
  | given {field : Field} {value : Value} (hf : field ∈ action.fields) (hi : IsFor item field)
      (hv : convert field.type (item.get "value") = .ok value) :
      Step action item (.ok (action.assign field.name value))
  | unfit {fault : Fault} (h : Unfit action item fault) : Step action item (.error fault)

theorem applyResult_step (hd : action.Distinct) {result : Result}
    (hr : Answer.resultOf? item = some result) : action.Step item (applyResult action result) := by
  obtain ⟨⟨-, ht⟩, rfl⟩ := resultOf?_eq_some_iff.mp hr
  have hidle (h : ∀ name, item.get "name" = .str name → (item.get "output").truthy = true →
      name ∉ action.outputs) : ∀ field ∈ action.fields, ¬ IsFor item field := by
    intro field hf hi
    obtain ⟨hname, -, ho⟩ := outputOf?_eq_some_iff.mp hi.named
    exact h field.name hname ho (Action.mem_outputs_iff.mpr ⟨field, hf, hi.isOutput, rfl⟩)
  unfold applyResult
  cases ho : (item.get "output").truthy with
  | false => exact .idle (hidle fun _ _ h => absurd (ho.symm.trans h) Bool.false_ne_true)
  | true =>
    simp only [Bool.not_true, Bool.false_eq_true, if_false]
    cases hc : checkHashable (item.get "name") with
    | error fault => exact .unfit (.name ho hc)
    | ok _ =>
      dsimp only [bind, Except.bind]
      split
      · rename_i name hname
        split
        · rename_i hmem
          obtain ⟨field, hf, hout, rfl⟩ :=
            Action.mem_outputs_iff.mp (List.contains_iff_mem.mp hmem)
          have hne : field.name ≠ "" := by simpa [hname, Value.truthy] using ht
          have hi : IsFor item field := ⟨hout, outputOf?_eq_some_iff.mpr ⟨hname, hne, ho⟩⟩
          rw [hd.typeOf_eq hf]
          cases hv : convert field.type (item.get "value") with
          | error fault => exact .unfit (.value hf hi hv)
          | ok value => exact .given hf hi hv
        · rename_i hmem
          refine .idle (hidle fun other hother _ ho => hmem ?_)
          rw [hname] at hother
          cases hother
          exact List.contains_iff_mem.mpr ho
      · rename_i hname
        exact .idle (hidle fun name h => absurd h (hname name))

/-- What comes of an action when entries are read: all of them, or those before the first one
that does not fit. -/
inductive Action.Reads (items : List Value) (action : Action) :
    Action × Except Fault Unit → Prop where
  | all {after : Action} (h : action.Receives items after) : Reads items action (after, .ok ())
  | some {earlier later : List Value} {item : Value} {after : Action} {fault : Fault}
      (hs : items = earlier ++ item :: later) (hu : Unfit action item fault)
      (h : action.Receives earlier after) : Reads items action (after, .error fault)

theorem Unfit.of_assign {name : String} {value : Value} {fault : Fault}
    (h : Unfit (action.assign name value) item fault) : Unfit action item fault := by
  cases h with
  | value hf hi hv =>
    obtain ⟨field, hmem, rfl⟩ := List.mem_map.mp hf
    by_cases hn : (field.name == name) = true
    · rw [if_pos hn] at hi hv
      exact .value hmem ⟨hi.isOutput, hi.named⟩ hv
    · rw [if_neg hn] at hi hv
      exact .value hmem hi hv
  | name ho hn => exact .name ho hn

theorem Action.Reads.cons {done : Action × Except Fault Unit} {before : Action}
    (h : before.Reads items done)
    (hr : ∀ {items after}, before.Receives items after → action.Receives (item :: items) after)
    (hu : ∀ {item fault}, Unfit before item fault → Unfit action item fault) :
    action.Reads (item :: items) done := by
  cases h with
  | all h => exact .all (hr h)
  | @some earlier later entry _ _ hs hu' h =>
    have hcons : item :: items = (item :: earlier) ++ entry :: later := congrArg (item :: ·) hs
    exact .some hcons (hu hu') (hr h)

theorem applyResults_reads (hd : action.Distinct) (items : List Value) :
    action.Reads items (applyResults action (items.filterMap Answer.resultOf?)) := by
  induction items generalizing action with
  | nil => exact .all (.refl action)
  | cons item items ih =>
    cases hr : Answer.resultOf? item with
    | none =>
      rw [List.filterMap_cons_none hr]
      exact (ih hd).cons (·.cons_of_idle fun _ _ => not_isFor_of_resultOf? hr) id
    | some result =>
      have hstep := applyResult_step hd hr
      rw [List.filterMap_cons_some hr, applyResults]
      generalize applyResult action result = read at hstep ⊢
      cases hstep with
      | idle h => exact (ih hd).cons (·.cons_of_idle h) id
      | given hf hi hv => exact (ih (hd.assign _ _)).cons (.cons_of_assign hd hf hi hv) .of_assign
      | unfit h => exact .some (List.nil_append (item :: items)).symm h (.refl action)

/-! ## The request -/

theorem itemsOf_eq_ok {v : Value} {items : List Value} (h : Answer.itemsOf v = .ok items) :
    items = v.itemsOf := by
  unfold Answer.itemsOf at h
  cases v with
  | list found => exact (Except.ok.inj h).symm
  | str text => exact (Except.ok.inj h).symm
  | _ =>
    dsimp only at h
    split at h
    · cases h
    · exact (Except.ok.inj h).symm

theorem exists_items_of_ofValue {response : Value} {answer : Answer}
    (h : Answer.ofValue response = .ok answer) :
    ∃ items, Answer.itemsOf (response.get "fields") = .ok items ∧
      answer.results = items.filterMap Answer.resultOf? ∧
      answer.resultType = if (response.get "resultType").truthy then response.get "resultType"
        else .str "Failed" := by
  unfold Answer.ofValue at h
  split at h
  · cases hi : Answer.itemsOf (response.get "fields") with
    | error fault =>
      rw [hi] at h
      cases h
    | ok items =>
      rw [hi] at h
      cases h
      exact ⟨items, rfl, rfl, rfl⟩
  · cases h

theorem results_of_ofValue {response : Value} {answer : Answer}
    (h : Answer.ofValue response = .ok answer) :
    answer.results = (response.itemsAt "fields").filterMap Answer.resultOf? := by
  obtain ⟨items, hi, hr, -⟩ := exists_items_of_ofValue h
  rw [hr, itemsOf_eq_ok hi]
  rfl

/-- The descriptor hands over each input of the action with its value, and nothing else. -/
def Action.HandsOver (action : Action) (descriptor : Value) : Prop :=
  ∃ parameters, descriptor.field? "parameters" = some (.dict parameters) ∧
    (parameters.map (·.1)).Nodup ∧ ∀ name value, Entries.get? parameters name = some value ↔
      ∃ field ∈ action.fields, field.direction = .input ∧ field.name = name ∧ field.value = value

theorem Action.Distinct.parameters (hd : action.Distinct) :
    (action.parameters.map (·.1)).Nodup := by
  rw [Action.parameters, List.map_map]
  exact hd.sublist (List.filter_sublist.map _)

theorem Action.Distinct.handsOver (hd : action.Distinct) {locator : Option (Value × Value)}
    {descriptor : Value} (h : action.descriptor locator = .ok descriptor) :
    action.HandsOver descriptor := by
  have hparameters : descriptor.field? "parameters" = some (.dict action.parameters) := by
    unfold Action.descriptor at h
    split at h
    · cases h
    · cases h
      rfl
  refine ⟨_, hparameters, hd.parameters, fun name value => ?_⟩
  rw [Entries.get?_eq_some_iff hd.parameters]
  simp [Action.parameters, and_assoc]

variable {σ : Type} {runner : Runner σ} {locator : Option (Value × Value)} {timeout : Value}
  {trail : Trail σ}

inductive Asks (runner : Runner σ) (action : Action) (locator : Option (Value × Value))
    (timeout : Value) (trail : Trail σ) : Except Fault Value × Trail σ → Prop where
  | sent {descriptor : Value} (h : action.descriptor locator = .ok descriptor)
      (hp : action.HandsOver descriptor) : Asks runner action locator timeout trail
        ((runner.request descriptor timeout).result.run (runner.flush.run trail).2)

theorem asks_of_request (hd : action.Distinct) {answer : Answer} {done : Trail σ}
    (h : (request runner action locator timeout).result.run trail = (.ok answer, done)) :
    ∃ response, Asks runner action locator timeout trail (.ok response, done) ∧
      answer.results = (response.itemsAt "fields").filterMap Answer.resultOf? := by
  unfold request at h
  rw [Attempt.run_bind, Attempt.run_ofExcept] at h
  cases hdesc : action.descriptor locator with
  | error fault =>
    rw [hdesc] at h
    cases h
  | ok descriptor =>
    have hasks : Asks runner action locator timeout trail
        ((runner.request descriptor timeout).result.run (runner.flush.run trail).2) :=
      .sent hdesc (hd.handsOver hdesc)
    simp only [hdesc, Attempt.run_bind, Attempt.run_lift] at h
    generalize (runner.request descriptor timeout).result.run (runner.flush.run trail).2 = sent
      at h hasks
    obtain ⟨outcome, noted⟩ := sent
    cases outcome with
    | error fault => cases h
    | ok response =>
      simp only [Attempt.run_ofExcept] at h
      cases ha : Answer.ofValue response with
      | error fault =>
        rw [ha] at h
        cases h
      | ok read =>
        rw [ha] at h
        dsimp only at h
        split at h
        · cases h
          exact ⟨response, hasks, results_of_ofValue ha⟩
        · cases h

/-- An action is run to the end of the entries that fit, unless its request fails. -/
theorem execute_cases (hd : action.Distinct) {done : Action × Except Fault Unit} {noted : Trail σ}
    (h : (execute runner action locator timeout).run trail = (done, noted)) :
    (∃ fault, (request runner action locator timeout).result.run trail = (.error fault, noted) ∧
      done = (action, .error fault)) ∨
    ∃ response, Asks runner action locator timeout trail (.ok response, noted) ∧
      action.Reads (response.itemsAt "fields") done := by
  unfold execute at h
  rw [Act.run_bind] at h
  cases hr : (request runner action locator timeout).result.run trail with
  | mk outcome after =>
    rw [hr] at h
    cases outcome with
    | error fault =>
      cases h
      exact .inl ⟨fault, rfl, rfl⟩
    | ok answer =>
      cases h
      obtain ⟨response, hasks, hresults⟩ := asks_of_request hd hr
      exact .inr ⟨response, hasks, hresults ▸ applyResults_reads hd _⟩

/-! ## Fields afterwards -/

def lookUp : Action where
  name := "LookUp"
  guid := "g"
  className := "c"
  fields := [⟨"key", .input, ⟨[.text]⟩, .str "k"⟩, ⟨"text", .output, ⟨[.text]⟩, .str ""⟩,
    ⟨"count", .output, ⟨[.int]⟩, .int 0⟩]

def carrying (fields : List (String × String × Bool)) : Runner Unit where
  flush := return ()
  request _ _ := return .dict [("resultType", .str "Passed"),
    ("fields", .list (fields.map fun (name, value, output) =>
      .dict [("name", .str name), ("value", .str value), ("output", .bool output)]))]

/-- A run that succeeds has handed over the inputs as they were, and gives each output the last
value that was sent for it. -/
theorem outputs_received (hd : action.Distinct)
    (h : ((execute runner action locator timeout).run trail).1 = (after, .ok ())) :
    ∃ response, Asks runner action locator timeout trail
        (.ok response, ((execute runner action locator timeout).run trail).2) ∧
      action.Receives (response.itemsAt "fields") after := by
  rcases execute_cases hd (Prod.ext h rfl) with ⟨fault, -, he⟩ | ⟨response, hasks, hreads⟩
  · cases he
  · cases hreads with
    | all h => exact ⟨response, hasks, h⟩

/-- An output is sent twice, and once more without its flag, among an input and a name that is
no field. -/
theorem last_value_received :
    let runner := carrying [("text", "a", true), ("key", "x", true), ("count", " 7 ", true),
      ("text", "b", true), ("other", "y", true), ("text", "c", false)]
    let done := (execute runner lookUp none (.int (-1))).run { outside := () }
    lookUp.Distinct ∧ done.1.2 = .ok () ∧
      done.1.1.fields.map (·.value) = [.str "k", .str "b", .int 7] ∧
      ∃ response, Asks runner lookUp none (.int (-1)) { outside := () } (.ok response, done.2) ∧
        lookUp.Receives (response.itemsAt "fields") done.1.1 := by
  intro runner done
  have hd : lookUp.Distinct := by
    rw [Action.Distinct]
    decide
  have hok : done.1.2 = .ok () := by rfl
  exact ⟨hd, hok, rfl, outputs_received hd (Prod.ext rfl hok)⟩

/-- A run that fails leaves the action as it was, or with what the entries have given that come
before the first one that does not fit. -/
theorem outputs_kept_before_misfit (hd : action.Distinct) {fault : Fault}
    (h : ((execute runner action locator timeout).run trail).1 = (after, .error fault)) :
    (((request runner action locator timeout).result.run trail).1 = .error fault ∧
      after = action) ∨
    ∃ response earlier item later, Asks runner action locator timeout trail
        (.ok response, ((execute runner action locator timeout).run trail).2) ∧
      response.itemsAt "fields" = earlier ++ item :: later ∧ Unfit action item fault ∧
        action.Receives earlier after := by
  rcases execute_cases hd (Prod.ext h rfl) with ⟨cause, hr, he⟩ | ⟨response, hasks, hreads⟩
  · cases he
    exact .inl ⟨congrArg Prod.fst hr, rfl⟩
  · cases hreads with
    | some hs hu h => exact .inr ⟨response, _, _, _, hasks, hs, hu, h⟩

def misfit : Runner Unit :=
  carrying [("text", "a", true), ("count", "old", true), ("text", "b", true)]

theorem first_text_kept :
    let done := (execute misfit lookUp none (.int (-1))).run { outside := () }
    lookUp.Distinct ∧ done.1.2 = .error (refused "old" "int") ∧
      (((request misfit lookUp none (.int (-1))).result.run { outside := () }).1 =
          .error (refused "old" "int") ∧ done.1.1 = lookUp ∨
        ∃ response earlier item later,
          Asks misfit lookUp none (.int (-1)) { outside := () } (.ok response, done.2) ∧
          response.itemsAt "fields" = earlier ++ item :: later ∧
          Unfit lookUp item (refused "old" "int") ∧ lookUp.Receives earlier done.1.1) := by
  intro done
  have hd : lookUp.Distinct := by
    rw [Action.Distinct]
    decide
  have hfault : done.1.2 = .error (refused "old" "int") := by rfl
  exact ⟨hd, hfault, outputs_kept_before_misfit hd (Prod.ext rfl hfault)⟩

theorem misfit_leaves_output_changed :
    let done := (execute misfit lookUp none (.int (-1))).run { outside := () }
    (∃ fault, done.1.2 = .error fault) ∧
      done.1.1.fields.map (·.value) ≠ lookUp.fields.map (·.value) := by
  intro done
  refine ⟨⟨refused "old" "int", rfl⟩, fun h => ?_⟩
  have hafter : done.1.1.fields.map (·.value) = [.str "k", .str "a", .int 0] := rfl
  rw [hafter] at h
  simp [lookUp] at h

end Addon

end AgentReporting
