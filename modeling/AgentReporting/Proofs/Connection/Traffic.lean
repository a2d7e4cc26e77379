import AgentReporting.Proofs.Connection.Orders
import AgentReporting.Proofs.Recorder.Switching

/-! # The traffic of a connection

Whatever a connection is asked for, each command of its driver goes to the automation server
once, as it is and in its turn. Apart from the commands the server sees lookups only, made for
the report of text that was typed. What is looked up leaves no mark on the recorder.
-/

namespace AgentReporting

variable {σ : Type}

/-! ## Reports and their lookups -/

/-- A report that goes out after the lookups made for it, unless it could not be made. -/
structure Reporting where
  lookups : List RemoteCall
  submission : Option Submission

def Reporting.outgoing (r : Reporting) : List Outgoing :=
  r.lookups.map .call ++ r.submission.toList.map .report

/-- A lookup for the report of text that was typed, made while commands are reported and
redacted. -/
structure RemoteCall.LooksUp (call : RemoteCall) (switches : Switches) (name : String)
    (params : Value) : Prop where
  typed : name = Command.sendKeysToElement ∨ name = Command.sendKeysToActiveElement
  asked : call.name = Command.activeElement ∨ call.name = Command.elementAttribute
  session : call.params.get Endpoint.sessionKey = params.get Endpoint.sessionKey
  reports : switches.reportsDisabled = false
  commands : switches.commandsDisabled = false
  redaction : switches.redactionDisabled = false

/-- What is reported for a filing. There are lookups only for the attempt to send keys. -/
inductive Filing.Told (orders : List Order) (switches : Switches) :
    Filing Numbered → Reporting → Prop where
  | attempt {a : Numbered} {lookups : List RemoteCall} {s : Submission} {name : String}
      {params : Value} : a.MadeFor orders name params → a.ReportedAs s →
      (∀ call ∈ lookups, call.LooksUp switches name params) →
      Told orders switches (.attempt a) ⟨lookups, some s⟩
  /-- The text was found to be a secret, but the command cannot be copied to mask it. -/
  | lost {a : Numbered} {lookups : List RemoteCall} {name : String} {params : Value} :
      a.MadeFor orders name params → a.attempt.command.copyFault?.isSome = true →
      (∀ call ∈ lookups, call.LooksUp switches name params) →
      Told orders switches (.lost a) ⟨lookups, none⟩
  | test (name : String) : Told orders switches (.test name) ⟨[], some (.test { name })⟩

def Event.call? (mobile : Bool) : Event → Option RemoteCall
  | .sent c _ => Connection.callOf mobile c
  | .handed _ => none

theorem Redaction.outgoing_of_asks {c : Command} {lookups : List Event}
    (h : ∀ event ∈ lookups, Asks c event) (mobile : Bool) :
    lookups.filterMap (Event.outgoing? mobile) =
      (lookups.filterMap (Event.call? mobile)).map .call := by
  rw [List.map_filterMap]
  refine List.filterMap_congr fun event he => ?_
  cases h event he <;> rfl

namespace Terms

variable {terms : Terms} {f : Filing Numbered} {fs : List (Filing Numbered)}
variable {lookups events : List Event} {s : Submission} {orders : List Order}

theorem Lookups.made_of_mem {c : Command} {secret : Bool} (h : terms.Lookups c lookups secret)
    {event : Event} (he : event ∈ lookups) :
    terms.switches.redactionDisabled = false ∧ Redaction.isRedactable c = true := by
  cases h with
  | off => exact absurd he List.not_mem_nil
  | made hr hi =>
    refine ⟨hr, ?_⟩
    cases hi with
    | spared => exact absurd he List.not_mem_nil
    | secure hk => exact hk
    | plain hk => exact hk
    | failed hk => exact hk

theorem Lookups.looksUp {a : Numbered} {secret : Bool} {name : String} {params : Value}
    (h : terms.Lookups a.attempt.command lookups secret) (ht : terms.takesCommands = true)
    (ha : a.MadeFor orders name params) (ho : ∀ order ∈ orders, order.InSession) {mobile : Bool}
    {call : RemoteCall} (hc : call ∈ lookups.filterMap (Event.call? mobile)) :
    call.LooksUp terms.switches name params := by
  obtain ⟨event, he, hc⟩ := List.mem_filterMap.mp hc
  obtain ⟨hn, hs⟩ := ha.command_eq ho
  obtain ⟨hr, hk⟩ := h.made_of_mem he
  simp only [takesCommands, takesReports, Bool.and_eq_true, Bool.not_eq_true'] at ht
  have hq := h.asks event he
  cases event with
  | handed s => cases hq
  | sent asked answer =>
    obtain ⟨hasked, hsession⟩ :=
      Connection.callOf_asked (hs ▸ (ha.inSession ho).2) hq hc
    exact {
      typed := by simpa [Redaction.isRedactable, hn] using hk
      asked := hasked
      session := hsession.trans hs
      reports := ht.2.2
      commands := ht.1
      redaction := hr }

theorem Hands.told (h : terms.Hands f lookups s) (ht : terms.takes f = true)
    (hf : f.StemsFrom orders) (ho : ∀ order ∈ orders, order.InSession) (mobile : Bool) :
    ∃ r : Reporting, (lookups ++ [Event.handed s]).filterMap (Event.outgoing? mobile) = r.outgoing ∧
      f.Told orders terms.switches r := by
  cases hf with
  | attempt ha =>
    cases h with
    | attempt hl =>
      refine ⟨⟨lookups.filterMap (Event.call? mobile), some _⟩, ?_,
        .attempt ha hl.reported fun call hc => hl.looksUp ht ha ho hc⟩
      rw [List.filterMap_append, Redaction.outgoing_of_asks hl.asks]
      rfl
  | lost => cases h
  | test name =>
    cases h with
    | test => exact ⟨⟨[], some _⟩, rfl, .test name⟩

/-- The events of filings go out as reports, one for each filing that is taken. -/
theorem Shown.told (h : terms.Shown fs events) (hf : ∀ f ∈ fs, f.StemsFrom orders)
    (ho : ∀ order ∈ orders, order.InSession) (mobile : Bool) :
    ∃ reports : List Reporting,
      events.filterMap (Event.outgoing? mobile) = reports.flatMap (·.outgoing) ∧
        List.Forall₂ (Filing.Told orders terms.switches) (fs.filter terms.takes) reports := by
  induction h with
  | nil => exact ⟨[], rfl, .nil⟩
  | @cons f fs block events hs _ ih =>
    obtain ⟨hfirst, hrest⟩ := List.forall_mem_cons.mp hf
    obtain ⟨reports, he, ht⟩ := ih hrest
    rw [List.filterMap_append, he]
    cases hs with
    | sent => cases hfirst
    | untaken hu => exact ⟨reports, rfl, by rwa [List.filter_cons_of_neg (by simp [hu])]⟩
    | @lost a _ hk hl hcopy =>
      cases hfirst with
      | lost ha =>
        have htake : terms.takes (.lost a) = true := hk
        rw [List.filter_cons_of_pos htake]
        refine ⟨⟨block.filterMap (Event.call? mobile), none⟩ :: reports, ?_,
          .cons (.lost ha hcopy fun call hc => hl.looksUp hk ha ho hc) ht⟩
        rw [Redaction.outgoing_of_asks hl.asks, List.flatMap_cons, Reporting.outgoing,
          Option.toList_none, List.map_nil, List.append_nil]
    | handed hk hh =>
      obtain ⟨r, hr, htold⟩ := hh.told hk hfirst ho mobile
      rw [hr, List.filter_cons_of_pos hk]
      exact ⟨r :: reports, rfl, .cons htold ht⟩

end Terms

/-! ## Passages -/

/-- What goes out because of one order: the call for its command, and reports. -/
structure Passage where
  issued : Option RemoteCall
  reports : List Reporting

def Passage.outgoing (p : Passage) : List Outgoing :=
  p.issued.toList.map .call ++ p.reports.flatMap (·.outgoing)

def Filing.isReport {β : Type} : Filing β → Bool
  | sent _ _ => false
  | _ => true

namespace Moment

open Recorder

variable (links : Links σ) (m : Moment σ)

/-- What is to be reported because of an order that comes after others. -/
def due (earlier : List Order) (order : Order) : List (Filing Numbered) :=
  (m.filed links earlier order).filter fun f =>
    f.isReport && (terms links (m.obey links earlier).recorder).takes f

/-- What goes out because of an order that comes after others. -/
structure Passes (mobile : Bool) (earlier : List Order) (order : Order) (p : Passage) : Prop where
  issued : order.Issues mobile p.issued
  told : List.Forall₂
    (Filing.Told (earlier ++ [order]) (m.obey links earlier).recorder.switches)
    (m.due links earlier order) p.reports

variable {links} {m} {earlier : List Order} {order : Order}

theorem exists_passage (ho : ∀ o ∈ earlier ++ [order], o.InSession) {events : List Event}
    (h : (terms links (m.obey links earlier).recorder).Shown (m.filed links earlier order) events)
    (mobile : Bool) :
    ∃ p, events.filterMap (Event.outgoing? mobile) = p.outgoing ∧
      m.Passes links mobile earlier order p := by
  have hi := Order.issues_of_inSession (ho order (by simp)) mobile
  obtain ⟨rest, hf, hr⟩ := m.filed_split links earlier order
  have hd : m.due links earlier order =
      rest.filter (terms links (m.obey links earlier).recorder).takes := by
    have hreports : rest.filter (fun f => f.isReport &&
        (terms links (m.obey links earlier).recorder).takes f) = rest.filter _ :=
      List.filter_congr fun f hm => by cases hr f hm <;> exact Bool.true_and _
    rw [due, hf, List.filter_append, hreports]
    cases order.command? <;> rfl
  rw [hf] at h
  cases hc : order.command? with
  | none =>
    rw [hc] at h hi
    obtain ⟨reports, he, ht⟩ := Terms.Shown.told h hr ho mobile
    exact ⟨⟨none, reports⟩, he, hi, hd ▸ ht⟩
  | some c =>
    -- the command goes out before anything is looked up or reported
    rw [hc] at h hi
    obtain ⟨after, rfl, hs⟩ := Terms.Shown.sent_cons h
    obtain ⟨reports, he, ht⟩ := hs.told hr ho mobile
    refine ⟨⟨Connection.callOf mobile c, reports⟩, ?_, hi, hd ▸ ht⟩
    rw [← List.singleton_append, List.filterMap_append, Connection.outgoing?_sent, he]
    rfl

variable (links) (m)

/-- A watched recorder follows its book through a history of orders, which go out in passages. -/
theorem exists_passages (hs : m.recorder.stash = []) {orders : List Order}
    (ho : ∀ order ∈ orders, order.InSession) (mobile : Bool) :
    (m.bookAfter links orders).Describes (m.watched.obey links.watched orders).recorder ∧
      ∃ passages : List Passage,
        (m.watched.obey links.watched orders).events.filterMap (Event.outgoing? mobile) =
            passages.flatMap (·.outgoing) ∧
          List.Forall₂ (Order.Issues mobile) orders (passages.map (·.issued)) ∧
          ∀ earlier order later, orders = earlier ++ order :: later →
            ∃ p, passages[earlier.length]? = some p ∧ m.Passes links mobile earlier order p := by
  -- from the end: the last order adds one passage, and the earlier ones stay as they are
  induction orders using List.reverseRecOn with
  | nil => exact ⟨⟨congrArg Stash.entries hs, rfl⟩, [], rfl, .nil, by simp⟩
  | append_singleton orders order ih =>
    obtain ⟨hb, passages, he, hi, hp⟩ := ih fun o hm => ho o (List.mem_append_left _ hm)
    have hw := unwatched_obey links m.watched orders
    obtain ⟨hb', events, he', hf⟩ := obeyed_follows links hb orders.length order
    rw [notes_watched, hw] at hb' hf
    rw [terms_watched] at hf
    have hr : (m.watched.obey links.watched orders).recorder = (m.obey links orders).recorder :=
      congrArg (·.recorder) hw
    rw [hr] at hf
    obtain ⟨p, hep, hpp⟩ := exists_passage ho hf mobile
    have hl : orders.length = passages.length := by simpa using hi.length_eq
    rw [obey_concat, bookAfter_concat]
    refine ⟨hb', passages ++ [p], ?_, ?_, ?_⟩
    · rw [he', List.filterMap_append, he, hep]
      simp
    · rw [List.map_append]
      exact List.rel_append hi (.cons hpp.issued .nil)
    · intro earlier last later hsplit
      rcases split_append hsplit.symm with ⟨mid, rfl, hm⟩ | ⟨mid, rfl, -⟩
      · obtain ⟨rfl, rfl, -⟩ : mid = [] ∧ last = order ∧ later = [] := by
          simpa [List.append_eq_singleton_iff] using hm
        rw [List.append_nil]
        exact ⟨p, by simp [hl], hpp⟩
      · obtain ⟨q, hq, hqq⟩ := hp earlier last mid rfl
        exact ⟨q, (List.getElem?_append_left (List.getElem?_eq_some_iff.mp hq).1).trans hq, hqq⟩

/-! ## Traffic -/

def metered (m : Moment σ) : Moment (Metered σ) :=
  ⟨m.recorder, { m.trail with outside := { outside := m.trail.outside } }⟩

def unmetered (m : Moment (Metered σ)) : Moment σ := ⟨m.recorder, m.trail.unmetered⟩

def outgoing (m : Moment (Metered σ)) : List Outgoing := m.trail.outside.outgoing

open Connection

variable (remote : Remote σ) (mobile : Bool) (submit : Option (Submission → Act σ Bool))

/-- What goes out over a connection in a history of orders: one passage for each order. -/
structure Traffic (m : Moment σ) (orders : List Order) (passages : List Passage) : Prop where
  outgoing : (m.metered.obey (meter remote mobile submit) orders).outgoing =
    passages.flatMap (·.outgoing)
  issued : List.Forall₂ (Order.Issues mobile) orders (passages.map (·.issued))
  passes : ∀ earlier order later, orders = earlier ++ order :: later →
    ∃ p, passages[earlier.length]? = some p ∧
      m.metered.Passes (meter remote mobile submit) mobile earlier order p
  describes : (m.metered.bookAfter (meter remote mobile submit) orders).Describes
    (m.metered.obey (meter remote mobile submit) orders).recorder
  /-- Only attempts for orders are stashed. -/
  stashed : ∀ attempt ∈
      (m.metered.obey (meter remote mobile submit) orders).recorder.stash.attempts,
    ∃ (a : Numbered) (name : String) (params : Value),
      a.MadeFor orders name params ∧ a.attempt = attempt
  /-- The meter changes nothing. -/
  unmetered : (m.metered.obey (meter remote mobile submit) orders).unmetered =
    m.obey (linked remote mobile submit) orders

variable {remote mobile submit}

theorem tallied_obey (w : Moment (Watched (Metered σ))) (orders : List Order) :
    (w.obey (meter remote mobile submit).watched orders).trail.outside.Tallied mobile =
      w.trail.outside.Tallied mobile := by
  induction orders generalizing w with
  | nil => rfl
  | cons order rest ih =>
    have hk := Recording.Conducted.keeps (fun _ => order.perform_conducted)
      (spares_tallied remote mobile submit)
    exact (ih _).trans (hk w.recorder w.trail)

/-- The automation server sees each command of the driver once, as it is and in its turn, and
lookups for reports besides. -/
theorem server_sees_commands {m : Moment σ} (hs : m.recorder.stash = []) {orders : List Order}
    (ho : ∀ order ∈ orders, order.InSession) :
    ∃ passages, m.Traffic remote mobile submit orders passages := by
  let links := meter remote mobile submit
  obtain ⟨hb, passages, he, hi, hp⟩ :=
    exists_passages links m.metered hs ho mobile
  have hw : (m.metered.watched.obey links.watched orders).unwatched =
    m.metered.obey links orders := unwatched_obey links m.metered.watched orders
  have ht : (m.metered.watched.obey links.watched orders).trail.outside.Tallied mobile :=
    (tallied_obey m.metered.watched orders).mpr rfl
  have hr : (m.metered.watched.obey links.watched orders).recorder =
    (m.metered.obey links orders).recorder := congrArg (·.recorder) hw
  rw [hr] at hb
  refine ⟨passages, ?_, hi, hp, hb, ?_, obey_mirrored (meter_mirrored remote mobile submit) _ _⟩
  · exact (congrArg (·.outgoing) hw).symm.trans (ht.trans he)
  · intro attempt ha
    rw [Stash.attempts_eq, hb.stash, List.map_map] at ha
    obtain ⟨entry, hm, rfl⟩ := List.mem_map.mp ha
    obtain ⟨name, params, hmade⟩ := madeFor_of_stashed (List.mem_map_of_mem hm)
    exact ⟨entry.2, name, params, hmade, rfl⟩

def secretiveRemote : Remote Unit := fun name _ =>
  pure (.dict [("value", .str (if name == Command.elementAttribute then "password" else "done"))])

def typedParams (text : String) : Value :=
  .dict [("id", .str "e1"), (Endpoint.sessionKey, .str "session-1"), ("text", .str text)]

def typingOrders : List Order :=
  [.command (some (.within [])) Command.sendKeysToElement (typedParams "hunter2"),
    .switch fun switches => { switches with redactionDisabled := true },
    .command (some (.within [])) Command.sendKeysToElement (typedParams "hunter2")]

theorem typing_traffic :
    let m : Moment Unit := ⟨{}, { outside := () }⟩
    let submit : Option (Submission → Act Unit Bool) := some fun _ => pure true
    let sent : RemoteCall := ⟨Command.sendKeysToElement, .dict [("id", .str "e1"),
      ("text", .str "hunter2"), (Endpoint.sessionKey, .str "session-1")]⟩
    let lookup : RemoteCall := ⟨Command.elementAttribute, .dict [("id", .str "e1"),
      ("name", .str "type"), (Endpoint.sessionKey, .str "session-1")]⟩
    let typed : Command := ⟨.str "session-1", Command.sendKeysToElement,
      .dict [("id", .str "e1"), ("text", .str "hunter2")]⟩
    m.recorder.stash = [] ∧ (∀ order ∈ typingOrders, order.InSession) ∧
      (m.metered.obey (meter secretiveRemote false submit) typingOrders).outgoing =
        [.call sent, .call lookup,
          .report (.command (Redaction.masked typed) (.str "done") true .null),
          .call sent, .report (.command typed (.str "done") true .null)] ∧
      ∃ passages, m.Traffic secretiveRemote false submit typingOrders passages := by
  intro m submit sent lookup typed
  have hs : m.recorder.stash = [] := rfl
  have ho : ∀ order ∈ typingOrders, order.InSession := by
    simp only [typingOrders, List.forall_mem_cons]
    exact ⟨⟨rfl, rfl⟩, trivial, ⟨rfl, rfl⟩, nofun⟩
  exact ⟨hs, ho, rfl, server_sees_commands hs ho⟩

end Moment

end AgentReporting
