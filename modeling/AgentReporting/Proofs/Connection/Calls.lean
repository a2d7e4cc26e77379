import AgentReporting.Kit.Drivers
import AgentReporting.Proofs.Entries
import AgentReporting.Proofs.Kit.Renewal
import AgentReporting.Proofs.Recorder.Inquiry
import AgentReporting.Proofs.Recorder.Overhearing
import AgentReporting.Proofs.Recorder.Sparing

/-! # Calls of the automation server

A connection takes the session out of the parameters of a command, and puts it back to send
the command. A meter on the connection notes each call that reaches the automation server
and each report that is handed over.
-/

namespace AgentReporting

variable {σ α : Type}

/-! ## The session of a command -/

/-- A value that is taken out of a dictionary and put back leaves an equal dictionary. -/
theorem Value.agree_of_restored {params value : Value} {key : String}
    (h : params.field? key = some value) :
    AgreeApart [] params ((params.without [key]).withFields [(key, value)]) := by
  have restored (fields : Entries Value) (hf : Entries.get? fields key = some value)
      (other : String) : Entries.get? (Entries.merge
        (fields.filter fun entry => !([key].contains entry.1)) [(key, value)]) other =
          Entries.get? fields other := by
    rw [Entries.merge, List.foldl_cons, List.foldl_nil, Entries.get?_put]
    split
    · rename_i ho
      rw [ho, hf]
    · have ho : other ∉ [key] := by simpa using ‹_›
      exact Entries.get?_filter ho fields
  cases params with
  | dict fields => exact .dict fun other _ => restored fields h other
  | paired first fields => exact .paired fun other _ => restored fields h other
  | _ => cases h

theorem Value.field?_of_truthy {params : Value} {key : String}
    (h : (params.get key).truthy = true) : params.field? key = some (params.get key) := by
  unfold get at h ⊢
  cases hf : params.field? key with
  | none =>
    rw [hf] at h
    cases h
  | some value => rfl

structure RemoteCall where
  name : String
  params : Value

namespace Connection

variable {name : String} {params : Value} {mobile : Bool} {c : Command}

theorem commandOf_eq (h : params.isDict = true) (name : String) :
    commandOf name params = .ok {
      sessionId := params.get Endpoint.sessionKey, name
      parameters := params.without [Endpoint.sessionKey] } := by
  rw [commandOf, Value.asDict, if_pos h]
  rfl

theorem isDict_without (h : params.isDict = true) (keys : List String) :
    (params.without keys).isDict = true := by
  cases params with
  | dict fields => rfl
  | paired first fields => rfl
  | _ => cases h

/-- The call by which a command is sent, if it is sent at all. -/
def callOf (mobile : Bool) (c : Command) : Option RemoteCall :=
  if skips mobile c then none
  else
    match parametersOf c with
    | .error _ => none
    | .ok params => some ⟨c.name, params⟩

theorem callOf_eq (hd : c.parameters.isDict = true) (ht : c.sessionId.truthy = true)
    (mobile : Bool) : callOf mobile c =
      if skips mobile c then none
      else some ⟨c.name, c.parameters.withFields [(Endpoint.sessionKey, c.sessionId)]⟩ := by
  have hp : parametersOf c =
      .ok (c.parameters.withFields [(Endpoint.sessionKey, c.sessionId)]) := by
    rw [parametersOf, Value.asDict, if_pos hd]
    simp only [ht, if_true]
    rfl
  rw [callOf, hp]

/-- What a driver asks for is sent under its name, with its session put back. -/
theorem callOf_commandOf (hd : params.isDict = true)
    (ht : (params.get Endpoint.sessionKey).truthy = true) (mobile : Bool) (name : String) :
    (commandOf name params).toOption.bind (callOf mobile) =
      if mobile && name == Command.quit then none
      else some ⟨name, (params.without [Endpoint.sessionKey]).withFields
        [(Endpoint.sessionKey, params.get Endpoint.sessionKey)]⟩ := by
  rw [commandOf_eq hd]
  exact callOf_eq (isDict_without hd _) ht mobile

theorem callOf_asked {asked : Command} {answer : Except Fault Response} {call : RemoteCall}
    (ht : c.sessionId.truthy = true) (ha : Redaction.Asks c (.sent asked answer))
    (hc : callOf mobile asked = some call) :
    (call.name = Command.activeElement ∨ call.name = Command.elementAttribute) ∧
      call.params.get Endpoint.sessionKey = c.sessionId := by
  cases ha with
  | focus =>
    have hs : skips mobile (Redaction.askActive c) = false := Bool.and_false mobile
    rw [callOf_eq (c := Redaction.askActive c) rfl ht, hs] at hc
    cases hc
    exact ⟨.inl rfl, rfl⟩
  | field id name =>
    have hs : skips mobile (Redaction.askAttribute c id name) = false := Bool.and_false mobile
    rw [callOf_eq (c := Redaction.askAttribute c id name) rfl ht, hs] at hc
    cases hc
    exact ⟨.inr rfl, rfl⟩

end Connection

/-! ## Meters -/

/-- What goes out over a connection. -/
inductive Outgoing where
  | call (call : RemoteCall)
  | report (s : Submission)

structure Metered (σ : Type) where
  outside : σ
  outgoing : List Outgoing := []

namespace Metered

def within (act : Act σ α) : Act (Metered σ) α :=
  Act.within Metered.outside (fun outside w => { w with outside }) act

def note (item : Outgoing) : Act (Metered σ) Unit :=
  Act.modifyOutside fun w => { w with outgoing := w.outgoing ++ [item] }

end Metered

def Trail.unmetered (t : Trail (Metered σ)) : Trail σ := { t with outside := t.outside.outside }

namespace Connection

/-- The links of a recorder over a connection to the automation server. -/
def linked (remote : Remote σ) (mobile : Bool) (submit : Option (Submission → Act σ Bool)) :
    Links σ where
  send := sendBy remote mobile
  submit

def metered (remote : Remote σ) : Remote (Metered σ) := fun name params =>
  Attempt.ofResult do
    Metered.note (.call ⟨name, params⟩)
    Metered.within (remote name params).result

def meter (remote : Remote σ) (mobile : Bool) (submit : Option (Submission → Act σ Bool)) :
    Links (Metered σ) :=
  linked (metered remote) mobile <| submit.map fun submit s => do
    Metered.note (.report s)
    Metered.within (submit s)

variable (remote : Remote σ) (mobile : Bool) (submit : Option (Submission → Act σ Bool))

theorem run_sendBy (c : Command) (t : Trail σ) :
    (sendBy remote mobile c).result.run t =
      if skips mobile c then (.ok (Response.done c), t)
      else
        match parametersOf c with
        | .error fault => (.error fault, t)
        | .ok params =>
          let done := (remote c.name params).result.run t
          (done.1.bind (Response.ofRaw c.sessionId), done.2) := by
  unfold sendBy
  cases skips mobile c with
  | true => rfl
  | false =>
    simp only [Bool.false_eq_true, if_false, Attempt.run_bind, Attempt.run_ofExcept]
    cases parametersOf c with
    | error fault => rfl
    | ok params =>
      simp only
      generalize (remote c.name params).result.run t = done
      obtain ⟨answer, after⟩ := done
      cases answer <;> rfl

theorem sendBy_mirrored (c : Command) : Act.Mirrored Trail.unmetered (sendBy remote mobile c).result
    (sendBy (metered remote) mobile c).result := by
  intro t
  rw [run_sendBy, run_sendBy]
  cases skips mobile c with
  | true => exact ⟨rfl, rfl⟩
  | false => cases parametersOf c <;> exact ⟨rfl, rfl⟩

theorem meter_mirrored :
    (linked remote mobile submit).Mirrored Trail.unmetered (meter remote mobile submit) where
  client := by simp [meter, linked]
  send := sendBy_mirrored remote mobile
  hand s t := by
    unfold Links.hand meter linked
    cases submit with
    | none => exact ⟨rfl, rfl⟩
    | some submit => exact ⟨rfl, rfl⟩
  write _ _ := ⟨rfl, rfl⟩

theorem outgoing_sendBy (c : Command) (t : Trail (Metered σ)) :
    ((sendBy (metered remote) mobile c).result.run t).2.outside.outgoing =
      t.outside.outgoing ++ (callOf mobile c).toList.map .call := by
  rw [run_sendBy, callOf]
  cases skips mobile c with
  | true => exact (List.append_nil _).symm
  | false =>
    cases parametersOf c with
    | error fault => exact (List.append_nil _).symm
    | ok params => rfl

end Connection

/-! ## Drivers -/

namespace Kit

variable {τ : Type}

theorem attemptOnWorld_bind {β : Type} (attempt : Attempt τ α) (f : α → Attempt τ β) :
    attemptOnWorld (attempt >>= f) =
      attemptOnWorld attempt >>= fun a => attemptOnWorld (f a) := by
  refine funext fun t : Trail (Kit τ) => ?_
  change (attemptOnWorld (attempt >>= f)).result.run t =
    (attemptOnWorld attempt >>= fun a => attemptOnWorld (f a)).result.run t
  rw [Attempt.run_bind]
  simp only [run_attemptOnWorld, Attempt.run_bind]
  generalize attempt.result.run _ = done
  obtain ⟨answer, after⟩ := done
  cases answer <;> rfl

theorem attemptOnWorld_sendBy (remote : Connection.Remote τ) (mobile : Bool) (c : Command) :
    attemptOnWorld (Connection.sendBy remote mobile c) =
      Connection.sendBy (fun name params => attemptOnWorld (remote name params)) mobile c := by
  unfold Connection.sendBy
  cases Connection.skips mobile c with
  | true => rfl
  | false =>
    simp only [Bool.false_eq_true, if_false, attemptOnWorld_bind]
    rfl

theorem links_eq_linked (net : Network τ) {driver : Driver} (hk : driver.kind ≠ .generic) :
    links net driver =
      Connection.linked
        (fun name params => attemptOnWorld (driver.connection.remote net name params))
        driver.connection.mobile
        (some fun submission => report driver.client submission.report) := by
  refine congrArg (Links.mk · _) (funext fun c => ?_)
  rw [if_neg hk]
  exact attemptOnWorld_sendBy (driver.connection.remote net) driver.connection.mobile c

end Kit

/-! ## What is seen on a meter -/

def Event.outgoing? (mobile : Bool) : Event → Option Outgoing
  | .sent c _ => (Connection.callOf mobile c).map .call
  | .handed s => some (.report s)

/-- The meter notes what the watch sees. -/
def Watched.Tallied (mobile : Bool) (w : Watched (Metered σ)) : Prop :=
  w.outside.outgoing = w.events.filterMap (Event.outgoing? mobile)

namespace Connection

variable (remote : Remote σ) (mobile : Bool) (submit : Option (Submission → Act σ Bool))

theorem outgoing?_sent (c : Command) (answer : Except Fault Response) :
    [Event.sent c answer].filterMap (Event.outgoing? mobile) =
      (callOf mobile c).toList.map .call := by
  simp only [List.filterMap_cons, Event.outgoing?]
  cases callOf mobile c <;> rfl

theorem spares_tallied : (meter remote mobile submit).watched.Spares (Watched.Tallied mobile) where
  send c t := by
    let links := (meter remote mobile submit).watched
    have he := events_send (meter remote mobile submit) t c
    have ho : ((links.send c).result.run t).2.unwatched.outside.outgoing =
      t.unwatched.outside.outgoing ++ _ := outgoing_sendBy remote mobile c t.unwatched
    change Watched.Tallied mobile ((links.send c).result.run t).2.outside = _
    generalize (links.send c).result.run t = done at he ho ⊢
    change (done.2.unwatched.outside.outgoing = done.2.events.filterMap _) =
      (t.unwatched.outside.outgoing = t.events.filterMap _)
    -- the event and the call are added on both sides
    rw [he, ho, List.filterMap_append, outgoing?_sent, List.append_left_inj]
  submit := by
    intro counted hs s t
    obtain ⟨_, hm, rfl⟩ := Option.map_eq_some_iff.mp hs
    obtain ⟨inner, -, rfl⟩ := Option.map_eq_some_iff.mp hm
    change (t.outside.outside.outgoing ++ [_] = List.filterMap _ (t.events ++ [_])) = _
    rw [List.filterMap_append]
    exact propext (List.append_left_inj _)

end Connection

end AgentReporting
