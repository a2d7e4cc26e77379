import AgentReporting.Proofs.Addon.Outputs
import AgentReporting.Proofs.Json.RoundTrip
import AgentReporting.Proofs.Kit.Departing

/-! # How addon actions fail

An action is documented to fail in three ways: it did not pass, a value does not fit its output,
or the Agent cannot be talked to. Any other fault comes from an answer whose shape nobody looks
at: it is no dictionary, its fields have no items, or an output is named by a collection.
-/

namespace AgentReporting

variable {α β : Type}

/-! ## Faults of actions -/

/-- An action that did not pass, a value that does not fit its output, or trouble with talking
to the Agent. -/
def Fault.isOfAction : Fault → Bool
  | kit (.addonExecution _ _) => true
  | kit (.connect _) => true
  | invalidArgument _ => true
  | _ => false

/-- There is a fault, and it is none of those that actions are documented to have. -/
def Strays (answer : Except Fault α) : Prop :=
  ∃ fault, answer = .error fault ∧ fault.isOfAction = false

instance (answer : Except Fault α) : Decidable (Strays answer) :=
  match answer with
  | .ok _ => isFalse fun ⟨_, h, _⟩ => nomatch h
  | .error fault => decidable_of_iff (fault.isOfAction = false)
      ⟨fun h => ⟨fault, rfl, h⟩, fun ⟨_, he, h⟩ => Except.error.inj he ▸ h⟩

theorem not_strays_ok (a : α) : ¬ Strays (.ok a) := fun ⟨_, h, _⟩ => nomatch h

theorem strays_error_iff {fault : Fault} :
    Strays (α := α) (.error fault) ↔ fault.isOfAction = false := by
  constructor
  · rintro ⟨_, ⟨⟩, h⟩
    exact h
  · exact fun h => ⟨fault, rfl, h⟩

theorem not_strays_iff {answer : Except Fault Unit} : ¬ Strays answer ↔
    answer = .ok () ∨ ∃ fault, answer = .error fault ∧ fault.isOfAction = true := by
  cases answer with
  | error fault => simp [strays_error_iff]
  | ok _ => simp [not_strays_ok]

theorem strays_bind_iff (answer : Except Fault α) (f : α → Except Fault β) :
    Strays (answer >>= f) ↔ Strays answer ∨ ∃ a, answer = .ok a ∧ Strays (f a) := by
  cases answer with
  | error fault => simp [bind, Except.bind, strays_error_iff]
  | ok a => simp [bind, Except.bind, not_strays_ok]

/-! ## Shapes of answers -/

/-- There is something without items to go through: of JSON data, truth or a number. -/
def Value.isBare (v : Value) : Bool :=
  v.truthy && match v with
    | .list _ | .str _ => false
    | v => !v.isDict

def Value.isCollection (v : Value) : Bool :=
  match v with
  | .list _ => true
  | v => v.isDict

theorem Value.same_str_iff {v : Value} {text : String} :
    v.same (.str text) = true ↔ v = .str text := by
  cases v <;> simp [same, eq, leafEq, whole?]

namespace Addon

variable {action : Action} {item : Value} {items : List Value}

theorem isOfAction_of_itemsOf {v : Value} {fault : Fault} (h : Answer.itemsOf v = .error fault) :
    fault.isOfAction = false := by
  unfold Answer.itemsOf at h
  split at h
  · cases h
  · cases h
  · split at h <;> cases h
    rfl

theorem strays_itemsOf_iff (v : Value) : Strays (Answer.itemsOf v) ↔ v.isBare = true := by
  unfold Answer.itemsOf Value.isBare
  split
  · simp [not_strays_ok]
  · simp [not_strays_ok]
  · rename_i v _ _
    split <;> simp_all [not_strays_ok, strays_error_iff, Fault.notIterable, Fault.isOfAction]

theorem strays_checkHashable_iff (v : Value) :
    Strays (checkHashable v) ↔ v.isCollection = true := by
  cases v <;> simp [checkHashable, Value.isCollection, Value.isDict, Value.fields?, not_strays_ok,
    strays_error_iff, Fault.isOfAction]

theorem checkHashable_of_isCollection {v : Value} (h : v.isCollection = false) :
    checkHashable v = .ok () := by
  cases v <;> first | rfl | cases h

theorem not_strays_convert (type : FieldType) (v : Value) : ¬ Strays (convert type v) := by
  unfold convert
  split
  · split
    · exact not_strays_ok _
    · split <;> simp [not_strays_ok, strays_error_iff, refused, Fault.isOfAction]
    · split <;> simp [not_strays_ok, strays_error_iff, refused, Fault.isOfAction]
    · exact not_strays_ok _
  · exact not_strays_ok _

/-! ## Entries -/

/-- A flagged entry that is named by a collection, which cannot be looked up among the outputs. -/
structure Unnameable (item : Value) : Prop where
  flagged : (item.get "output").truthy = true
  named : (item.get "name").truthy = true
  collection : (item.get "name").isCollection = true

def Misfits (action : Action) (item : Value) : Prop :=
  ∃ name ∈ action.outputs, outputOf? item = some name ∧
    ∃ fault, convert (action.typeOf name) (item.get "value") = .error fault

/-- An entry cannot be looked up, and none before it ends the reading. -/
def Stumbles (action : Action) (items : List Value) : Prop :=
  ∃ earlier item later, items = earlier ++ item :: later ∧ Unnameable item ∧
    ∀ other ∈ earlier, ¬ Misfits action other

theorem not_stumbles_nil : ¬ Stumbles action [] := by
  rintro ⟨earlier, item, later, h, -⟩
  exact List.append_ne_nil_of_right_ne_nil earlier (List.cons_ne_nil item later) h.symm

theorem stumbles_cons_iff : Stumbles action (item :: items) ↔
    Unnameable item ∨ ¬ Misfits action item ∧ Stumbles action items := by
  constructor
  · rintro ⟨earlier, other, later, hs, hu, hm⟩
    cases earlier with
    | nil =>
      obtain ⟨rfl, -⟩ := List.cons.inj hs
      exact .inl hu
    | cons first earlier =>
      obtain ⟨rfl, rfl⟩ := List.cons.inj hs
      obtain ⟨hf, hm⟩ := List.forall_mem_cons.mp hm
      exact .inr ⟨hf, earlier, other, later, rfl, hu, hm⟩
  · rintro (hu | ⟨hf, earlier, other, later, rfl, hu, hm⟩)
    · exact ⟨[], item, items, rfl, hu, nofun⟩
    · exact ⟨item :: earlier, other, later, rfl, hu, List.forall_mem_cons.mpr ⟨hf, hm⟩⟩

@[simp] theorem Action.outputs_assign (action : Action) (name : String) (value : Value) :
    (action.assign name value).outputs = action.outputs := by
  simp only [Action.outputs, Action.namesOf, Action.assign, List.filter_map, List.map_map]
  refine congrArg₂ List.map (funext fun field => ?_) (List.filter_congr fun field _ => ?_)
  · dsimp only [Function.comp_apply]
    split <;> rfl
  · dsimp only [Function.comp_apply]
    split <;> rfl

@[simp] theorem Action.typeOf_assign (action : Action) (name other : String) (value : Value) :
    (action.assign name value).typeOf other = action.typeOf other := by
  have hfound (field : Field) :
      (if field.name == name then { field with value } else field).name = field.name := by
    split <;> rfl
  simp only [Action.typeOf, Action.assign, List.find?_map, Option.map_map, Function.comp_def,
    hfound]
  congr 2
  funext field
  split <;> rfl

theorem stumbles_assign_iff {name : String} {value : Value} :
    Stumbles (action.assign name value) items ↔ Stumbles action items := by
  simp only [Stumbles, Misfits, Action.outputs_assign, Action.typeOf_assign]

theorem not_unnameable_of_resultOf? (h : Answer.resultOf? item = none) : ¬ Unnameable item :=
  fun hu => Bool.false_ne_true ((truthy_of_resultOf? h).symm.trans hu.named)

theorem misfits_iff {name : String} (ho : outputOf? item = some name) : Misfits action item ↔
    name ∈ action.outputs ∧ ∃ fault, convert (action.typeOf name) (item.get "value") =
      .error fault := by
  simp [Misfits, ho]

theorem applyResult_eq {result : Result} (hr : Answer.resultOf? item = some result)
    (hu : ¬ Unnameable item) : applyResult action result =
      match outputOf? item with
      | some name =>
        if name ∈ action.outputs then
          (convert (action.typeOf name) (item.get "value")).map (action.assign name)
        else .ok action
      | none => .ok action := by
  obtain ⟨⟨-, ht⟩, rfl⟩ := resultOf?_eq_some_iff.mp hr
  unfold applyResult
  cases hflag : (item.get "output").truthy with
  | false =>
    have ho : outputOf? item = none := Option.eq_none_iff_forall_ne_some.mpr fun name h =>
      Bool.false_ne_true (hflag.symm.trans (outputOf?_eq_some_iff.mp h).2.2)
    rw [ho]
    rfl
  | true =>
    have hc : (item.get "name").isCollection = false := by
      by_contra hc
      exact hu ⟨hflag, ht, by simpa using hc⟩
    simp only [Bool.not_true, Bool.false_eq_true, if_false, checkHashable_of_isCollection hc]
    cases hname : item.get "name" with
    | str name =>
      have hne : name ≠ "" := by simpa [hname, Value.truthy] using ht
      rw [outputOf?_eq_some_iff.mpr ⟨hname, hne, hflag⟩]
      simp only [List.contains_iff_mem]
      change (if _ then _ else _) = _
      refine if_congr .rfl ?_ rfl
      cases convert (action.typeOf name) (item.get "value") <;> rfl
    | _ =>
      simp only [outputOf?, hname]
      rfl

theorem strays_applyResult_of_unnameable (action : Action) {result : Result}
    (hr : Answer.resultOf? item = some result) (hu : Unnameable item) :
    Strays (applyResult action result) := by
  obtain ⟨-, rfl⟩ := resultOf?_eq_some_iff.mp hr
  simp only [applyResult, hu.flagged, Bool.not_true, Bool.false_eq_true, if_false]
  exact (strays_bind_iff _ _).mpr (.inl ((strays_checkHashable_iff _).mpr hu.collection))

theorem strays_applyResults_iff (items : List Value) :
    Strays (applyResults action (items.filterMap Answer.resultOf?)).2 ↔ Stumbles action items := by
  induction items generalizing action with
  | nil => exact iff_of_false (not_strays_ok ()) not_stumbles_nil
  | cons item items ih =>
    rw [stumbles_cons_iff]
    cases hr : Answer.resultOf? item with
    | none =>
      rw [List.filterMap_cons_none hr, ih]
      simp [not_unnameable_of_resultOf? hr, Misfits, outputOf?_of_resultOf? hr]
    | some result =>
      rw [List.filterMap_cons_some hr, applyResults]
      by_cases hu : Unnameable item
      · obtain ⟨fault, hf, hs⟩ := strays_applyResult_of_unnameable action hr hu
        simp [hf, hu, strays_error_iff, hs]
      · rw [applyResult_eq hr hu, or_iff_right hu]
        cases ho : outputOf? item with
        | none => simpa [Misfits, ho] using ih
        | some name =>
          simp only [misfits_iff ho]
          by_cases hmem : name ∈ action.outputs
          -- the value that is assigned does not matter for the entries to come
          · cases hv : convert (action.typeOf name) (item.get "value") with
            | error fault =>
              have hs := not_strays_convert (action.typeOf name) (item.get "value")
              rw [hv] at hs
              simpa [hmem, Except.map, strays_error_iff] using hs
            | ok value => simp [hmem, Except.map, ih, stumbles_assign_iff]
          · simp [hmem, ih]

/-! ## Responses -/

/-- A response of a shape that nobody looks at. Its entries are read only if the action passed. -/
inductive Misleads (action : Action) (response : Value) : Prop where
  | body (h : response.isDict = false)
  | fields (h : (response.get "fields").isBare = true)
  | name (hp : response.get "resultType" = .str "Passed")
      (hs : Stumbles action (response.itemsAt "fields"))

def outcome (action : Action) (response : Value) : Except Fault Unit := do
  let answer ← Answer.ofValue response
  if answer.passed then (applyResults action answer.results).2 else .error (failure answer)

theorem strays_ofValue_iff (response : Value) : Strays (Answer.ofValue response) ↔
    response.isDict = false ∨ (response.get "fields").isBare = true := by
  unfold Answer.ofValue
  split
  · rename_i hd
    rw [strays_bind_iff, strays_itemsOf_iff, hd]
    simp [not_strays_ok, pure, Except.pure]
  · rename_i hd
    simp [strays_error_iff, Fault.noAttribute, Fault.isOfAction, hd]

theorem isOfAction_of_ofValue {response : Value} {fault : Fault}
    (h : Answer.ofValue response = .error fault) : fault.isOfAction = false := by
  unfold Answer.ofValue at h
  split at h
  · cases hi : Answer.itemsOf (response.get "fields") with
    | ok items =>
      rw [hi] at h
      cases h
    | error cause =>
      rw [hi] at h
      cases h
      exact isOfAction_of_itemsOf hi
  · cases h
    rfl

theorem passed_of_ofValue {response : Value} {answer : Answer}
    (h : Answer.ofValue response = .ok answer) :
    answer.passed = true ↔ response.get "resultType" = .str "Passed" := by
  obtain ⟨_, -, -, ht⟩ := exists_items_of_ofValue h
  rw [Answer.passed, Value.same_str_iff, ht]
  split
  · rfl
  · rename_i ht
    refine iff_of_false (by simp) fun hp => ht ?_
    rw [hp]
    rfl

theorem strays_outcome_iff {response : Value} :
    Strays (outcome action response) ↔ Misleads action response := by
  rw [outcome, strays_bind_iff, strays_ofValue_iff]
  constructor
  · rintro ((h | h) | ⟨answer, ha, hs⟩)
    · exact .body h
    · exact .fields h
    · split at hs
      · rename_i hp
        rw [results_of_ofValue ha, strays_applyResults_iff] at hs
        exact .name ((passed_of_ofValue ha).mp hp) hs
      · exact nomatch strays_error_iff.mp hs
  · intro h
    cases h with
    | body h => exact .inl (.inl h)
    | fields h => exact .inl (.inr h)
    | name hp hs =>
      cases ha : Answer.ofValue response with
      | error fault =>
        exact .inl ((strays_ofValue_iff response).mp ⟨fault, ha, isOfAction_of_ofValue ha⟩)
      | ok answer =>
        refine .inr ⟨answer, rfl, ?_⟩
        rw [if_pos ((passed_of_ofValue ha).mpr hp), results_of_ofValue ha]
        exact (strays_applyResults_iff _).mpr hs

variable {σ : Type} {runner : Runner σ} {locator : Option (Value × Value)} {timeout : Value}

theorem run_execute {descriptor : Value} (hd : action.descriptor locator = .ok descriptor)
    (trail : Trail σ) : ((execute runner action locator timeout).run trail).1.2 =
      ((runner.request descriptor timeout).result.run (runner.flush.run trail).2).1 >>=
        outcome action := by
  unfold execute request
  simp only [Act.run_bind, Attempt.run_bind, Attempt.run_ofExcept, hd, Attempt.run_lift]
  generalize (runner.request descriptor timeout).result.run (runner.flush.run trail).2 = sent
  obtain ⟨reply, after⟩ := sent
  cases reply with
  | error fault => rfl
  | ok response =>
    simp only [outcome, bind, Except.bind]
    cases Answer.ofValue response with
    | error fault => rfl
    | ok answer => cases hp : answer.passed <;> simp only [hp] <;> rfl

end Addon

/-! ## The request of a client -/

namespace Client

variable {τ : Type} {net : Network τ} {client : Client} {descriptor timeout readTimeout : Value}
  {body : String}

def actionCall (channel : Channel) (timeout : Value) (body : String) : HttpRequest :=
  channel.request "POST" Route.action timeout (some body)

def responseIn (answer : HttpAnswer) : Except Fault Value :=
  match answer.body? with
  | some response => .ok response
  | none => .error (.connect .unreadableAction)

theorem run_readAction (className : Value) (answer : HttpAnswer) (trail : Trail τ) :
    ((readAction className answer).result.run trail).1 = responseIn answer := by
  have hread (trail : Trail τ) : ((match answer.body? with
      | some data => return data
      | none => unreadable answer "Failed reading action proxy execution response: "
        .unreadableAction : Attempt τ Value).result.run trail).1 = responseIn answer := by
    unfold responseIn
    cases answer.body? with
    | none => rfl
    | some data => rfl
  by_cases hs : answer.status = 200
  · simp only [readAction, hs, ne_eq, not_true, if_false]
    exact hread _
  · simp only [readAction, hs, ne_eq, not_false_iff, if_true]
    exact hread _

theorem strays_responseIn_iff (answer : HttpAnswer) (f : Value → Except Fault β) :
    Strays (responseIn answer >>= f) ↔
      ∃ response, answer.body? = some response ∧ Strays (f response) := by
  rw [strays_bind_iff]
  unfold responseIn
  cases answer.body? with
  | none => simp [strays_error_iff, Fault.connect, Fault.isOfAction]
  | some response => simp [not_strays_ok]

theorem run_executeAction (ho : client.channel.isOpen = true)
    (ht : actionTimeout timeout = .ok readTimeout) (hb : Json.encode? descriptor = some body)
    (trail : Trail τ) : ((client.executeAction net descriptor timeout).result.run trail).1 =
      match ((net.http (actionCall client.channel readTimeout body)).run trail.outside).1 with
      | .ok answer => responseIn answer
      | .error fault =>
        .error (if fault.isTransfer then .connect (.actionRequest (descriptor.get "className"))
          else fault) := by
  have hsent : (client.channel.send net "POST" Route.action readTimeout (some body)).result.run
      trail = (((net.http (actionCall client.channel readTimeout body)).run trail.outside).1,
        { trail with outside := ((net.http (actionCall client.channel readTimeout body)).run
          trail.outside).2 }) := by
    rw [Channel.send, if_pos ho]
    rfl
  simp only [executeAction, ht, hb, Attempt.run_bind, Attempt.run_ofExcept, Attempt.run_lift, hsent]
  cases ((net.http (actionCall client.channel readTimeout body)).run trail.outside).1 with
  | ok answer => exact run_readAction _ _ _
  | error fault => cases hf : fault.isTransfer <;> simp only [hf] <;> rfl

theorem strays_executeAction_iff
    (hhttp : ∀ request world fault, ((net.http request).run world).1 = .error fault →
      fault.isTransfer = true)
    (ho : client.channel.isOpen = true) (ht : actionTimeout timeout = .ok readTimeout)
    (hb : Json.encode? descriptor = some body) (f : Value → Except Fault β) (trail : Trail τ) :
    Strays (((client.executeAction net descriptor timeout).result.run trail).1 >>= f) ↔
      ∃ answer response,
        ((net.http (actionCall client.channel readTimeout body)).run trail.outside).1 =
          .ok answer ∧ answer.body? = some response ∧ Strays (f response) := by
  have hfaults := hhttp (actionCall client.channel readTimeout body) trail.outside
  rw [run_executeAction ho ht hb]
  cases hs : ((net.http (actionCall client.channel readTimeout body)).run trail.outside).1 with
  | error fault =>
    simp [strays_bind_iff, strays_error_iff, hfaults fault hs, Fault.connect, Fault.isOfAction]
  | ok answer => simp [strays_responseIn_iff]

/-- A timeout that can be compared; truth values count as numbers. -/
def isTimeLimit (timeout : Value) : Bool :=
  match timeout with
  | .bool _ | .int _ | .float _ => true
  | _ => false

theorem actionTimeout_of_isTimeLimit (h : isTimeLimit timeout = true) :
    ∃ readTimeout, actionTimeout timeout = .ok readTimeout := by
  unfold actionTimeout
  split
  · exact ⟨_, rfl⟩
  · cases timeout <;> first | exact ⟨_, rfl⟩ | cases h

end Client

namespace Addon

def placeOf (locator : Option (String × String)) : Option (Value × Value) :=
  locator.map fun (strategy, value) => (.str strategy, .str value)

theorem Action.descriptor_encodable {action : Action} (hg : action.guid ≠ "")
    (hc : action.className ≠ "") (hp : (Json.encode? (.dict action.parameters)).isSome = true)
    (locator : Option (String × String)) :
    ∃ descriptor, action.descriptor (placeOf locator) = .ok descriptor ∧
      (Json.encode? descriptor).isSome = true := by
  have hnamed : ¬ (action.guid.isEmpty || action.className.isEmpty) = true := by
    simpa using ⟨hg, hc⟩
  rw [Json.encode?_isSome_iff, Json.encodable] at hp
  refine ⟨_, if_neg hnamed, ?_⟩
  rw [Json.encode?_isSome_iff, Json.encodable, Json.fieldsEncodable_append]
  cases locator with
  | none => simp [placeOf, Json.fieldsEncodable, Json.encodable, hp]
  | some locator => simp [placeOf, Json.fieldsEncodable, Json.encodable, hp]

end Addon

namespace Kit

variable {τ : Type} {net : Network τ}

/-! ## The request of a driver -/

theorem flush_spares (net : Network τ) (driver : Nat) :
    (flush net driver).Keeps fun kit => kit.clients.map (·.channel) := by
  have hsubmit (client : Client) (report : Report) :
      (client.submit report).1.channel = client.channel := by
    unfold Client.submit
    split
    · rfl
    · split <;> rfl
  intro trail
  cases hd : trail.outside.drivers[driver]? with
  | none =>
    have hr := run_record_none hd fun driver => Recorder.clearStash (links net driver)
    exact congrArg (fun done => done.2.outside.clients.map (·.channel)) hr
  | some found =>
    rw [run_flush net hd]
    exact Recorder.clearStash_keeps ((links_spares net _ hsubmit found).through Prod.snd)
      found.recorder trail

theorem channel_flush (net : Network τ) (driver : Nat) {id : Nat} {client : Client}
    {trail : Trail (Kit τ)} (hc : trail.outside.clients[id]? = some client) :
    ∃ flushed, ((flush net driver).run trail).2.outside.clients[id]? = some flushed ∧
      flushed.channel = client.channel := by
  have hkept := congrArg (·[id]?) (flush_spares net driver trail)
  simpa only [List.getElem?_map, hc, Option.map_some, Option.map_eq_some_iff] using hkept

theorem run_executeAction {id : Nat} {client : Client} {trail : Trail (Kit τ)}
    (hc : trail.outside.clients[id]? = some client) (descriptor timeout : Value) :
    ((executeAction net id descriptor timeout).result.run trail).1 =
      ((client.executeAction net descriptor timeout).result.run
        { trail with outside := trail.outside.world }).1 := by
  unfold executeAction request
  simp only [Attempt.run_bind, Attempt.run_lift, Act.run_getOutside, hc, run_attemptOnWorld]

def actionEnding (net : Network τ) (driver id : Nat) (action : Addon.Action)
    (locator : Option (String × String)) (timeout : Value) (trail : Trail (Kit τ)) :
    Except Fault Unit :=
  ((Addon.execute (addons net driver id) action (Addon.placeOf locator) timeout).run trail).1.2

/-- Asked over the channel to carry the action out, the Agent answers with this data and with any
status. Its network is in the given state when it is asked. -/
inductive Answers (net : Network τ) (channel : Channel) (action : Addon.Action)
    (locator : Option (String × String)) (timeout : Value) (asked : τ) (response : Value) :
    Prop where
  | json {descriptor readTimeout : Value} {body : String} {answer : HttpAnswer}
      (hd : action.descriptor (Addon.placeOf locator) = .ok descriptor)
      (ht : Client.actionTimeout timeout = .ok readTimeout)
      (hb : Json.encode? descriptor = some body)
      (hs : ((net.http (Client.actionCall channel readTimeout body)).run asked).1 = .ok answer)
      (hr : answer.body? = some response)

/-- With an open client, an action that is described by its guid and class is carried out or
fails in a documented way exactly if no response misleads the reading of it. -/
theorem action_or_documented_iff (net : Network τ)
    (hhttp : ∀ request world fault, ((net.http request).run world).1 = .error fault →
      fault.isTransfer = true)
    (driver : Nat) {id : Nat} {client : Client} {trail : Trail (Kit τ)}
    (hi : trail.outside.clients[id]? = some client) (ho : client.channel.isOpen = true)
    {action : Addon.Action} (hg : action.guid ≠ "") (hc : action.className ≠ "")
    (hp : (Json.encode? (.dict action.parameters)).isSome = true)
    (locator : Option (String × String)) {timeout : Value}
    (ht : Client.isTimeLimit timeout = true) :
    let ending := actionEnding net driver id action locator timeout trail
    let asked := ((flush net driver).run trail).2.outside.world
    (ending = .ok () ∨ ∃ fault, ending = .error fault ∧ fault.isOfAction = true) ↔
      ¬ ∃ response, Answers net client.channel action locator timeout asked response ∧
        Addon.Misleads action response := by
  intro ending asked
  obtain ⟨descriptor, hd, hs⟩ := Addon.Action.descriptor_encodable hg hc hp locator
  obtain ⟨body, hb⟩ := Option.isSome_iff_exists.mp hs
  obtain ⟨readTimeout, hr⟩ := Client.actionTimeout_of_isTimeLimit ht
  obtain ⟨flushed, hf, hchannel⟩ := channel_flush net driver hi
  have hopen : flushed.channel.isOpen = true := hchannel ▸ ho
  have hending : ending = ((executeAction net id descriptor timeout).result.run
      ((flush net driver).run trail).2).1 >>= Addon.outcome action := Addon.run_execute hd trail
  rw [← not_strays_iff, not_iff_not, hending, run_executeAction hf,
    Client.strays_executeAction_iff hhttp hopen hr hb, hchannel]
  constructor
  · rintro ⟨answer, response, hs, hresponse, hm⟩
    exact ⟨response, .json hd hr hb hs hresponse, Addon.strays_outcome_iff.mp hm⟩
  · rintro ⟨response, ⟨hd', hr', hb', hs, hresponse⟩, hm⟩
    obtain rfl := Except.ok.inj (hd.symm.trans hd')
    obtain rfl := Except.ok.inj (hr.symm.trans hr')
    obtain rfl := Option.some.inj (hb.symm.trans hb')
    exact ⟨_, response, hs, hresponse, Addon.strays_outcome_iff.mpr hm⟩

def respondingWith (response : Value) : Network Unit where
  http _ := return .ok ⟨200, String.ofList (Json.text response)⟩
  automate _ := return .ok .null
  openSocket _ _ := return ()
  closeSocket := return ()

def misnamed : Value :=
  .dict [("resultType", .str "Passed"), ("fields", .list [
    .dict [("name", .str "text"), ("value", .str "a"), ("output", .bool true)],
    .dict [("name", .list [.str "text"]), ("value", .str "b"), ("output", .bool true)]])]

theorem misnamed_exact : misnamed.Exact := by
  have hentry {name : Value} (h : name.Exact) (value : String) :
      (Value.dict [("name", name), ("value", .str value), ("output", .bool true)]).Exact :=
    .dict (by simp) (by simp [h, Value.Exact.str, Value.Exact.bool])
  have hname : (Value.list [.str "text"]).Exact := .list (by simp [Value.Exact.str])
  have hentries := Value.Exact.list (List.forall_mem_cons.mpr
    ⟨hentry (.str "text") "a", List.forall_mem_singleton.mpr (hentry hname "b")⟩)
  exact .dict (by simp)
    (List.forall_mem_cons.mpr ⟨.str "Passed", List.forall_mem_singleton.mpr hentries⟩)

/-- The output that fits does not keep the action from ending with no documented fault. -/
theorem misnamed_output_strays :
    let ending := actionEnding (respondingWith misnamed) 0 0 Addon.lookUp (some ("id", "name"))
      (.int (-1)) kitInTest
    kitInTest.outside.clients[0]? = some openClient ∧ openClient.channel.isOpen = true ∧
      Addon.lookUp.guid ≠ "" ∧ Addon.lookUp.className ≠ "" ∧
      (Json.encode? (.dict Addon.lookUp.parameters)).isSome = true ∧
      Client.isTimeLimit (.int (-1)) = true ∧
      ¬ (ending = .ok () ∨ ∃ fault, ending = .error fault ∧ fault.isOfAction = true) := by
  intro ending
  have hi : kitInTest.outside.clients[0]? = some openClient := rfl
  have hg : Addon.lookUp.guid ≠ "" := by decide
  have hc : Addon.lookUp.className ≠ "" := by decide
  have hp : (Json.encode? (.dict Addon.lookUp.parameters)).isSome = true := by decide +kernel
  have ht : Client.isTimeLimit (.int (-1)) = true := rfl
  have hiff := action_or_documented_iff (respondingWith misnamed) (fun _ _ _ h => nomatch h) 0 hi
    rfl hg hc hp (some ("id", "name")) ht
  refine ⟨hi, rfl, hg, hc, hp, ht, fun h => hiff.mp h ?_⟩
  obtain ⟨descriptor, hd, hs⟩ :=
    Addon.Action.descriptor_encodable hg hc hp (some ("id", "name"))
  obtain ⟨body, hb⟩ := Option.isSome_iff_exists.mp hs
  refine ⟨misnamed, .json hd rfl hb rfl (Json.read?_text misnamed_exact),
    .name rfl ⟨[_], _, [], rfl, ⟨rfl, rfl, rfl⟩, ?_⟩⟩
  rintro other ho ⟨name, -, hn, fault, hv⟩
  obtain rfl := List.mem_singleton.mp ho
  cases hn
  cases hv

theorem action_answered_by_list :
    kitInTest.outside.clients[0]? = some openClient ∧ openClient.channel.isOpen = true ∧
      Addon.lookUp.guid ≠ "" ∧ Addon.lookUp.className ≠ "" ∧
      (Json.encode? (.dict Addon.lookUp.parameters)).isSome = true ∧
      Strays (actionEnding (respondingWith (.list [])) 0 0 Addon.lookUp none (.int (-1))
        kitInTest) := by
  refine ⟨rfl, rfl, by decide, by decide, by decide +kernel, ?_⟩
  decide +kernel

end Kit

end AgentReporting
