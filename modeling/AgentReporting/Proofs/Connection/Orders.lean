import AgentReporting.Proofs.Connection.Calls
import AgentReporting.Proofs.Recorder.Quitting
import Mathlib.Data.List.Induction

/-! # Orders for a connection

A history of orders is what a connection and its recorder are asked for, one after the other.
The recorder follows its book through the history, and each attempt in the book was made for
one of the orders.
-/

namespace AgentReporting

variable {σ : Type}

namespace Connection

/-- Carries out what a driver asks for while nothing records it; the answer is raw. -/
def unrecorded (links : Links σ) (name : String) (params : Value) : Attempt σ Value := do
  return (← links.send (← Attempt.ofExcept (commandOf name params))).raw

theorem execute_eq_unrecorded (net : Network σ) (connection : Connection)
    (submit : Option (Submission → Act σ Bool)) :
    execute net connection =
      unrecorded (linked (connection.remote net) connection.mobile submit) := rfl

open Recording.Conducted

variable {client : Bool} (site : Callsite) (name : String) (params : Value)

theorem record_conducted :
    Recording.Conducted client fun _ links => record links site name params := by
  unfold record
  cases commandOf name params with
  | error fault => exact answer _
  | ok c => exact seq (Recorder.execute_conducted site c false) fun _ => answer _

theorem unrecorded_conducted :
    Act.Conducted client fun _ links => (unrecorded links name params).result := by
  refine .attempt_seq (.answer _) fun c => ?_
  exact .attempt_seq (.send c) fun _ => .answer _

end Connection

/-! ## Orders -/

/-- What a connection and its recorder are asked for. -/
inductive Order where
  /-- A command of the driver. It is recorded for its call site, once there is a recorder. -/
  | command (site : Option Callsite) (name : String) (params : Value)
  | switch (change : Switches → Switches)
  | flush

namespace Order

open Connection

def perform (links : Links σ) : Order → Recording σ Unit
  | command (some site) name params => discard (record links site name params)
  | command none name params => discard (liftM (unrecorded links name params).result)
  | switch change => Recorder.setSwitches change
  | flush => Recorder.clearStash links

def InSession : Order → Prop
  | command _ _ params => params.isDict = true ∧ (params.get Endpoint.sessionKey).truthy = true
  | _ => True

/-- The call that an order comes to. A command is sent under its name, and with a dictionary of
parameters equal to its own. Only quitting a mobile device is not sent. -/
inductive Issues (mobile : Bool) : Order → Option RemoteCall → Prop where
  | sent (site : Option Callsite) {name : String} {params params' : Value} :
      (mobile && name == Command.quit) = false → Value.AgreeApart [] params params' →
      Issues mobile (.command site name params) (some ⟨name, params'⟩)
  | skipped (site : Option Callsite) (params : Value) : mobile = true →
      Issues mobile (.command site Command.quit params) none
  | switch (change : Switches → Switches) : Issues mobile (.switch change) none
  | flush : Issues mobile .flush none

def notes (links : Links σ) (m : Moment σ) (number : Nat) : Order → List (Note Numbered)
  | command site name params =>
    match commandOf name params with
    | .error _ => []
    | .ok c =>
      let answer := ((links.send c).result.run m.trail).1
      match site with
      | some site =>
        let made := (m.run (Recorder.execute links site c false)).1.isOk
        (Turn.executed site c false answer made).notes m.recorder.switches number
      | none => [.sent c answer]
  | switch _ => []
  | flush => [.flushed]

def command? : Order → Option Command
  | command _ name params => (commandOf name params).toOption
  | _ => none

theorem issues_of_inSession {order : Order} (h : order.InSession) (mobile : Bool) :
    order.Issues mobile (order.command?.bind (callOf mobile)) := by
  cases order with
  | switch change => exact .switch change
  | flush => exact .flush
  | command site name params =>
    obtain ⟨hd, ht⟩ := h
    rw [command?, callOf_commandOf hd ht]
    cases hs : mobile && name == Command.quit with
    | true =>
      obtain ⟨hm, hq⟩ := Bool.and_eq_true_iff.mp hs
      obtain rfl := beq_iff_eq.mp hq
      exact .skipped site params hm
    | false =>
      exact .sent site hs (Value.agree_of_restored (Value.field?_of_truthy ht))

theorem perform_conducted {client : Bool} (order : Order) :
    Recording.Conducted client fun _ links => order.perform links := by
  cases order with
  | command site name params =>
    cases site with
    | some site => exact .forget (record_conducted site name params)
    | none => exact .forget (.outside (unrecorded_conducted name params))
  | switch change => exact .change _
  | flush => exact Recorder.clearStash_conducted

end Order

namespace Moment

variable (links : Links σ) (m : Moment σ)

def obeyed (order : Order) : Moment σ := (m.run (order.perform links)).2

def obey (orders : List Order) : Moment σ := orders.foldl (obeyed links) m

/-- What is noted in a history of orders, which are numbered from a given number on. -/
def minutes (m : Moment σ) (number : Nat) : List Order → List (Note Numbered)
  | [] => []
  | order :: rest =>
    order.notes links m number ++ minutes (m.obeyed links order) (number + 1) rest

theorem obey_concat (orders : List Order) (order : Order) :
    m.obey links (orders ++ [order]) = (m.obey links orders).obeyed links order :=
  List.foldl_concat ..

theorem minutes_concat (number : Nat) (orders : List Order) (order : Order) :
    m.minutes links number (orders ++ [order]) = m.minutes links number orders ++
      order.notes links (m.obey links orders) (number + orders.length) := by
  induction orders generalizing m number with
  | nil => exact List.append_nil _
  | cons first rest ih =>
    rw [List.cons_append, minutes, minutes, ih, List.append_assoc, List.length_cons,
      Nat.add_right_comm, Nat.add_assoc number]
    rfl

theorem obeyed_refused {name : String} {params : Value} {fault : Fault}
    (hc : Connection.commandOf name params = .error fault) (site : Option Callsite) :
    m.obeyed links (.command site name params) = m := by
  cases site with
  | some site =>
    rw [obeyed, Order.perform, run_discard, Connection.record, hc]
    rfl
  | none =>
    rw [obeyed, Order.perform, run_discard, run_liftM, Connection.unrecorded, hc]
    rfl

theorem obeyed_recorded {site : Callsite} {name : String} {params : Value} {c : Command}
    (hc : Connection.commandOf name params = .ok c) :
    m.obeyed links (.command (some site) name params) =
      m.performed links (.execute site c false) := by
  rw [obeyed, Order.perform, run_discard, Connection.record, hc]
  rfl

theorem obeyed_unrecorded {name : String} {params : Value} {c : Command}
    (hc : Connection.commandOf name params = .ok c) :
    m.obeyed links (.command none name params) =
      { m with trail := ((links.send c).result.run m.trail).2 } := by
  rw [obeyed, Order.perform, run_discard, run_liftM]
  rw [Connection.unrecorded, hc, Attempt.run_bind, Attempt.run_ofExcept]
  simp only [Attempt.run_bind]
  split <;> simp_all

end Moment

/-! ## Watched orders -/

namespace Moment

open Recorder

variable (links : Links σ) {book : Book Numbered} {w : Moment (Watched σ)}

theorem obeyed_follows (h : book.Describes w.recorder) (number : Nat) (order : Order) :
    (book.after (order.notes links.watched w number)).Describes
        (w.obeyed links.watched order).recorder ∧
      ∃ events, (w.obeyed links.watched order).events = w.events ++ events ∧
        (terms links.watched w.recorder).Shown
          (book.filings (order.notes links.watched w number)) events := by
  have of_follows {notes : List (Note Numbered)} {after : Moment (Watched σ)}
      (hf : Follows links book notes w after) : (book.after notes).Describes after.recorder ∧
        ∃ events, after.events = w.events ++ events ∧
          (terms links.watched w.recorder).Shown (book.filings notes) events :=
    ⟨hf.describes, hf.shown⟩
  -- only a switch changes the terms, and it reports nothing itself
  cases order with
  | switch change => exact ⟨⟨h.stash, h.test⟩, [], (List.append_nil _).symm, .nil⟩
  | flush => exact of_follows (Follows.flushed links h)
  | command site name params =>
    cases hc : Connection.commandOf name params with
    | error fault =>
      rw [Order.notes, hc, obeyed_refused links.watched w hc]
      exact of_follows (Follows.refl h)
    | ok c =>
      rw [Order.notes, hc]
      cases site with
      | some site =>
        rw [obeyed_recorded links.watched w hc]
        exact of_follows (Follows.executed links h number site c false)
      | none =>
        rw [obeyed_unrecorded links.watched w hc]
        exact of_follows (Follows.sent links h c)

theorem obey_mirrored {τ : Type} {view : Trail τ → Trail σ} {mirror : Links τ} {links : Links σ}
    (h : links.Mirrored view mirror) (m : Moment τ) (orders : List Order) :
    let seen (m : Moment τ) : Moment σ := ⟨m.recorder, view m.trail⟩
    seen (m.obey mirror orders) = (seen m).obey links orders := by
  intro seen
  induction orders generalizing m with
  | nil => rfl
  | cons order rest ih =>
    have ho := (m.run_mirrored
      (Recording.Conducted.mirrored (fun _ => order.perform_conducted) h m.recorder)).2
    exact (ih _).trans (congrArg (obey links · rest) ho)

theorem unwatched_obey (w : Moment (Watched σ)) (orders : List Order) :
    (w.obey links.watched orders).unwatched = w.unwatched.obey links orders :=
  obey_mirrored links.watched_mirrored w orders

theorem notes_watched (w : Moment (Watched σ)) (number : Nat) (order : Order) :
    order.notes links.watched w number = order.notes links w.unwatched number := by
  cases order with
  | switch change => rfl
  | flush => rfl
  | command site name params =>
    rw [Order.notes, Order.notes]
    cases Connection.commandOf name params with
    | error fault => rfl
    | ok c =>
      cases site with
      | none => rfl
      | some site =>
        exact congrArg (Turn.notes _ number) (turn_watched links w (.execute site c false))

end Moment

/-! ## Where attempts come from -/

namespace Book

variable {β : Type} {book : Book β} {notes : List (Note β)} {a : β}

theorem mem_after_stash (h : a ∈ (book.after notes).stash.map (·.2)) :
    a ∈ book.stash.map (·.2) ∨ ∃ note ∈ notes, note.attempt? = some a := by
  induction notes generalizing book with
  | nil => exact .inl h
  | cons note rest ih =>
    rcases ih h with hs | ⟨note', hn, ha⟩
    · rcases mem_next_stash hs with hs | ⟨key, rfl⟩
      · exact .inl hs
      · exact .inr ⟨_, List.mem_cons_self, rfl⟩
    · exact .inr ⟨note', List.mem_cons_of_mem _ hn, ha⟩

theorem mem_filings_attempt (h : .attempt a ∈ book.filings notes) :
    a ∈ book.stash.map (·.2) ∨ ∃ note ∈ notes, note.attempt? = some a := by
  obtain ⟨pre, post, hf⟩ := List.append_of_mem h
  rcases origin hf.symm with hs | ⟨ns, note, ns', rfl, ha, -⟩
  · exact .inl hs
  · exact .inr ⟨note, List.mem_append_right _ List.mem_cons_self, ha⟩

end Book

/-- The attempt was made for a command among the orders. -/
structure Numbered.MadeFor (a : Numbered) (orders : List Order) (name : String) (params : Value) :
    Prop where
  order : ∃ site, orders[a.number]? = some (.command (some site) name params)
  command : Connection.commandOf name params = .ok a.attempt.command

namespace Numbered.MadeFor

variable {a : Numbered} {orders : List Order} {name : String} {params : Value}

theorem append (h : a.MadeFor orders name params) (more : List Order) :
    a.MadeFor (orders ++ more) name params := by
  obtain ⟨⟨site, hs⟩, hc⟩ := h
  have hl := (List.getElem?_eq_some_iff.mp hs).1
  exact ⟨⟨site, (List.getElem?_append_left hl).trans hs⟩, hc⟩

theorem inSession (h : a.MadeFor orders name params) (ho : ∀ order ∈ orders, order.InSession) :
    params.isDict = true ∧ (params.get Endpoint.sessionKey).truthy = true := by
  obtain ⟨site, hs⟩ := h.order
  exact ho _ (List.mem_of_getElem? hs)

theorem command_eq (h : a.MadeFor orders name params) (ho : ∀ order ∈ orders, order.InSession) :
    a.attempt.command.name = name ∧
      a.attempt.command.sessionId = params.get Endpoint.sessionKey := by
  have hc := h.command
  rw [Connection.commandOf_eq (h.inSession ho).1] at hc
  rw [← Except.ok.inj hc]
  exact ⟨rfl, rfl⟩

end Numbered.MadeFor

theorem Order.of_mem_notes {links : Links σ} {m : Moment σ} {number : Nat} {order : Order}
    {note : Note Numbered} {a : Numbered} (h : note ∈ order.notes links m number)
    (ha : note.about? = some a) : a.number = number ∧ ∃ site name params,
      order = .command (some site) name params ∧
        Connection.commandOf name params = .ok a.attempt.command := by
  cases order with
  | switch change => exact absurd h List.not_mem_nil
  | flush =>
    rw [List.mem_singleton.mp h] at ha
    cases ha
  | command site name params =>
    cases hc : Connection.commandOf name params with
    | error fault =>
      rw [notes, hc] at h
      exact absurd h List.not_mem_nil
    | ok c =>
      rw [notes, hc] at h
      cases site with
      | none =>
        rw [List.mem_singleton.mp h] at ha
        cases ha
      | some site =>
        obtain ⟨hn, _, _, -, ht⟩ := Turn.about_of_mem_notes h ha
        obtain ⟨-, rfl, -⟩ := Turn.executed.inj ht
        exact ⟨hn, site, name, params, rfl, hc⟩

theorem Moment.of_mem_minutes {links : Links σ} {m : Moment σ} {number : Nat}
    {orders : List Order} {note : Note Numbered} {a : Numbered}
    (h : note ∈ m.minutes links number orders) (ha : note.about? = some a) :
    ∃ k site name params, a.number = number + k ∧
      orders[k]? = some (.command (some site) name params) ∧
        Connection.commandOf name params = .ok a.attempt.command := by
  induction orders generalizing m number with
  | nil => exact absurd h List.not_mem_nil
  | cons order rest ih =>
    rcases List.mem_append.mp h with ho | hr
    · obtain ⟨hn, site, name, params, rfl, hc⟩ := Order.of_mem_notes ho ha
      exact ⟨0, site, name, params, hn, rfl, hc⟩
    · obtain ⟨k, site, name, params, hn, hk, hc⟩ := ih hr
      exact ⟨k + 1, site, name, params, by omega, hk, hc⟩

theorem Moment.madeFor_of_mem {links : Links σ} {m : Moment σ} {orders : List Order}
    {note : Note Numbered} {a : Numbered} (h : note ∈ m.minutes links 0 orders)
    (ha : note.about? = some a) : ∃ name params, a.MadeFor orders name params := by
  obtain ⟨k, site, name, params, hn, hk, hc⟩ := of_mem_minutes h ha
  rw [Nat.zero_add] at hn
  exact ⟨name, params, ⟨site, hn ▸ hk⟩, hc⟩

/-! ## What is filed for an order -/

/-- Whether a note is about the stash or the test. -/
def Note.intoBook {β : Type} : Note β → Bool
  | sent _ _ => false
  | step => false
  | _ => true

theorem Turn.intoBook_of_mem_placement {note : Note Numbered} {site : Callsite} {a : Numbered}
    {made : Bool} (h : note ∈ placement site a made) : note.intoBook = true := by
  obtain ⟨-, ⟨key, rfl⟩ | rfl | ⟨-, ⟨key, rfl⟩ | rfl⟩⟩ := mem_placement_cases h <;> rfl

theorem Turn.intoBook_of_mem_observation {switches : Switches} {note : Note Numbered}
    {site : Callsite} {force : Bool} (h : note ∈ observation switches site force) :
    note.intoBook = true := by
  unfold observation at h
  split at h
  · exact absurd h List.not_mem_nil
  · rw [List.mem_singleton.mp h]
    rfl

theorem Order.notes_split (links : Links σ) (m : Moment σ) (number : Nat) (order : Order) :
    ∃ rest, order.notes links m number = (order.command?.map fun c =>
        .sent c ((links.send c).result.run m.trail).1).toList ++ rest ∧
      ∀ note ∈ rest, note.intoBook = true := by
  cases order with
  | switch change => exact ⟨[], rfl, nofun⟩
  | flush => exact ⟨[.flushed], rfl, by simp [Note.intoBook]⟩
  | command site name params =>
    cases hc : Connection.commandOf name params with
    | error fault =>
      rw [notes, command?, hc]
      exact ⟨[], rfl, nofun⟩
    | ok c =>
      rw [notes, command?, hc]
      cases site with
      | none => exact ⟨[], rfl, nofun⟩
      | some site =>
        refine ⟨_, rfl, fun note hn => ?_⟩
        split at hn
        · rcases List.mem_append.mp hn with ho | hp
          · exact Turn.intoBook_of_mem_observation ho
          · exact Turn.intoBook_of_mem_placement hp
        · exact absurd hn List.not_mem_nil

theorem Book.mem_filings_cases {β : Type} {book : Book β} {notes : List (Note β)} {f : Filing β}
    (hn : ∀ note ∈ notes, note.intoBook = true) (h : f ∈ book.filings notes) :
    (∃ a, f = .attempt a ∨ f = .lost a) ∨ ∃ name, f = .test name := by
  induction notes generalizing book with
  | nil => exact absurd h List.not_mem_nil
  | cons note rest ih =>
    obtain ⟨hi, hn⟩ := List.forall_mem_cons.mp hn
    rcases List.mem_append.mp h with hf | hf
    · cases note with
      | sent => cases hi
      | step => cases hi
      | kept => exact absurd hf List.not_mem_nil
      | dropped => exact absurd hf List.not_mem_nil
      | observed force name =>
        obtain ⟨name, -, rfl⟩ := List.mem_map.mp hf
        exact .inr ⟨name, rfl⟩
      | flushed =>
        obtain ⟨entry, -, rfl⟩ := List.mem_map.mp hf
        exact .inl ⟨_, .inl rfl⟩
      | direct a =>
        rcases List.mem_append.mp hf with hf | hf
        · obtain ⟨entry, -, rfl⟩ := List.mem_map.mp hf
          exact .inl ⟨_, .inl rfl⟩
        · exact .inl ⟨a, .inl (List.mem_singleton.mp hf)⟩
      | lost a =>
        rcases List.mem_append.mp hf with hf | hf
        · obtain ⟨entry, -, rfl⟩ := List.mem_map.mp hf
          exact .inl ⟨_, .inl rfl⟩
        · exact .inl ⟨a, .inr (List.mem_singleton.mp hf)⟩
    · exact ih hn hf

/-- A filing of an attempt that was made for one of the orders, or of a test. -/
inductive Filing.StemsFrom (orders : List Order) : Filing Numbered → Prop where
  | attempt {a : Numbered} {name : String} {params : Value} :
      a.MadeFor orders name params → StemsFrom orders (.attempt a)
  | lost {a : Numbered} {name : String} {params : Value} :
      a.MadeFor orders name params → StemsFrom orders (.lost a)
  | test (name : String) : StemsFrom orders (.test name)

namespace Moment

variable (links : Links σ) (m : Moment σ)

def bookAfter (orders : List Order) : Book Numbered := m.book.after (m.minutes links 0 orders)

/-- What is filed because of an order that comes after others. -/
def filed (earlier : List Order) (order : Order) : List (Filing Numbered) :=
  (m.bookAfter links earlier).filings (order.notes links (m.obey links earlier) earlier.length)

theorem bookAfter_concat (earlier : List Order) (order : Order) :
    m.bookAfter links (earlier ++ [order]) = (m.bookAfter links earlier).after
      (order.notes links (m.obey links earlier) earlier.length) := by
  rw [bookAfter, minutes_concat, Nat.zero_add, Book.after_append]
  rfl

variable {links} {m} {earlier : List Order} {order : Order} {a : Numbered}

theorem madeFor_of_stashed {orders : List Order}
    (h : a ∈ (m.bookAfter links orders).stash.map (·.2)) :
    ∃ name params, a.MadeFor orders name params := by
  rcases Book.mem_after_stash h with hs | ⟨note, hm, ha⟩
  · exact absurd hs List.not_mem_nil
  · exact madeFor_of_mem hm (Note.about?_of_attempt ha)

theorem madeFor_of_noted {note : Note Numbered}
    (h : note ∈ order.notes links (m.obey links earlier) earlier.length)
    (ha : note.about? = some a) : ∃ name params, a.MadeFor (earlier ++ [order]) name params := by
  have hn : note ∈ m.minutes links 0 (earlier ++ [order]) := by
    rw [minutes_concat, Nat.zero_add]
    exact List.mem_append_right _ h
  exact madeFor_of_mem hn ha

theorem madeFor_of_filed (h : .attempt a ∈ m.filed links earlier order) :
    ∃ name params, a.MadeFor (earlier ++ [order]) name params := by
  rcases Book.mem_filings_attempt h with hs | ⟨note, hm, ha⟩
  · obtain ⟨name, params, ha⟩ := madeFor_of_stashed hs
    exact ⟨name, params, ha.append [order]⟩
  · exact madeFor_of_noted hm (Note.about?_of_attempt ha)

variable (links) (m) (earlier) (order)

/-- First the command of an order is filed, then what stems from this order and earlier ones. -/
theorem filed_split : ∃ rest, m.filed links earlier order = (order.command?.map fun c =>
      .sent c ((links.send c).result.run (m.obey links earlier).trail).1).toList ++ rest ∧
    ∀ f ∈ rest, f.StemsFrom (earlier ++ [order]) := by
  obtain ⟨rest, hn, hb⟩ := order.notes_split links (m.obey links earlier) earlier.length
  have hf : m.filed links earlier order = (order.command?.map fun c =>
      .sent c ((links.send c).result.run (m.obey links earlier).trail).1).toList ++
        (m.bookAfter links earlier).filings rest := by
    rw [filed, hn, Book.filings_append]
    cases order.command? <;> rfl
  refine ⟨_, hf, fun f hm => ?_⟩
  have hfiled : f ∈ m.filed links earlier order := hf ▸ List.mem_append_right _ hm
  rcases Book.mem_filings_cases hb hm with ⟨a, rfl | rfl⟩ | ⟨name, rfl⟩
  · obtain ⟨name, params, ha⟩ := madeFor_of_filed hfiled
    exact .attempt ha
  · obtain ⟨name, params, ha⟩ := madeFor_of_noted (Book.mem_filings_lost hfiled) rfl
    exact .lost ha
  · exact .test name

end Moment

end AgentReporting
