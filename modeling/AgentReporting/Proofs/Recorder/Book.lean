import AgentReporting.Recorder.Stash
import AgentReporting.Recorder.TestPeriod

/-! # The book of a recorder

A book says which attempts are kept back and which test is running. Notes about what
happened turn it into the next book, and into what is filed: commands that were sent,
attempts, steps, and tests that ended. An attempt that can be neither kept back nor reported
leaves a note all the same.
-/

namespace AgentReporting

/-- What happened to a recorder. The attempts `α` are seen as opaque. -/
inductive Note (α : Type) where
  | sent (c : Command) (answer : Except Fault Response)
  /-- The running test was looked up; its end is forced by the end of the session. -/
  | observed (force : Bool) (name : Option String)
  /-- An attempt was made inside a wait. -/
  | kept (key : String) (a : α)
  /-- An attempt was made inside a wait, but could not be copied. -/
  | dropped (key : String)
  | flushed
  /-- An attempt was made outside a wait. -/
  | direct (a : α)
  /-- An attempt was made outside a wait, but could not be masked for its report. -/
  | lost (a : α)
  | step

/-- What is filed because of a note. -/
inductive Filing (α : Type) where
  | sent (c : Command) (answer : Except Fault Response)
  | attempt (a : α)
  /-- An attempt of which no more than the lookups are made. -/
  | lost (a : α)
  | test (name : String)
  | step

structure Book (α : Type) where
  stash : Entries α := []
  test : Option String := none

variable {α : Type}

theorem split_append {pre post xs ys : List α} {x : α} (h : pre ++ x :: post = xs ++ ys) :
    (∃ mid, pre = xs ++ mid ∧ mid ++ x :: post = ys) ∨
      ∃ mid, xs = pre ++ x :: mid ∧ post = mid ++ ys := by
  rcases List.append_eq_append_iff.mp h with ⟨mid, rfl, hm⟩ | ⟨mid, rfl, hm⟩
  · rcases List.cons_eq_append_iff.mp hm with ⟨rfl, rfl⟩ | ⟨mid, rfl, hp⟩
    · exact .inl ⟨[], by simp, rfl⟩
    · exact .inr ⟨mid, rfl, hp⟩
  · exact .inl ⟨mid, rfl, hm.symm⟩

def Filing.tried (made : Bool) (a : α) : Filing α := if made then .attempt a else .lost a

namespace Note

/-- The note about an attempt outside a wait, whose report was made or failed. -/
def tried (made : Bool) (a : α) : Note α := if made then .direct a else .lost a

def flushes : Note α → Bool
  | flushed => true
  | direct _ => true
  | lost _ => true
  | _ => false

/-- The attempt that is kept back or reported because of a note. -/
def attempt? : Note α → Option α
  | kept _ a => some a
  | direct a => some a
  | _ => none

/-- The attempt that was tried because of a note, though its report may have failed. -/
def about? : Note α → Option α
  | kept _ a => some a
  | direct a => some a
  | lost a => some a
  | _ => none

theorem about?_of_attempt {note : Note α} {a : α} (h : note.attempt? = some a) :
    note.about? = some a := by
  cases note with
  | kept key b => exact h
  | direct b => exact h
  | _ => cases h

/-- The key under which an attempt inside a wait takes the place of earlier ones. -/
def key? : Note α → Option String
  | kept key _ => some key
  | dropped key => some key
  | _ => none

end Note

namespace Filing

def attempt? : Filing α → Option α
  | attempt a => some a
  | _ => none

theorem mem_attempts {filings : List (Filing α)} {a : α} :
    a ∈ filings.filterMap attempt? ↔ .attempt a ∈ filings := by
  rw [List.mem_filterMap]
  constructor
  · rintro ⟨f, hf, ha⟩
    cases f with
    | attempt b => exact Option.some.inj ha ▸ hf
    | _ => cases ha
  · intro h
    exact ⟨_, h, rfl⟩

end Filing

namespace Book

variable (book : Book α)

def flushed : List (Filing α) := book.stash.map fun entry => .attempt entry.2

def next : Note α → Book α
  | .observed force name => { book with test := (TestPeriod.observe force name book.test).1 }
  | .kept key a => { book with stash := Entries.erase book.stash key ++ [(key, a)] }
  | .dropped key => { book with stash := Entries.erase book.stash key }
  | .flushed => { book with stash := [] }
  | .direct _ => { book with stash := [] }
  | .lost _ => { book with stash := [] }
  | _ => book

def filed : Note α → List (Filing α)
  | .sent c answer => [.sent c answer]
  | .observed force name =>
    (TestPeriod.observe force name book.test).2.toList.map .test
  | .kept _ _ => []
  | .dropped _ => []
  | .flushed => book.flushed
  | .direct a => book.flushed ++ [.attempt a]
  | .lost a => book.flushed ++ [.lost a]
  | .step => [.step]

def after (notes : List (Note α)) : Book α := notes.foldl next book

def filings (book : Book α) : List (Note α) → List (Filing α)
  | [] => []
  | note :: rest => book.filed note ++ (book.next note).filings rest

theorem after_append (xs ys : List (Note α)) :
    book.after (xs ++ ys) = (book.after xs).after ys := List.foldl_append

theorem filings_append (xs ys : List (Note α)) :
    book.filings (xs ++ ys) = book.filings xs ++ (book.after xs).filings ys := by
  induction xs generalizing book with
  | nil => rfl
  | cons note rest ih =>
    simp only [List.cons_append, filings, ih, List.append_assoc]
    rfl

variable {book}

theorem mem_filings_sent {notes : List (Note α)} {c : Command} {answer : Except Fault Response}
    (h : .sent c answer ∈ notes) : .sent c answer ∈ book.filings notes := by
  obtain ⟨pre, post, rfl⟩ := List.append_of_mem h
  rw [filings_append, filings]
  exact List.mem_append_right _ (List.mem_append_left _ List.mem_cons_self)

theorem mem_erase {entries : Entries α} {key other : String} {a : α} (h : (key, a) ∈ entries)
    (hk : other ≠ key) : (key, a) ∈ Entries.erase entries other :=
  List.mem_filter.mpr ⟨h, by simpa using Ne.symm hk⟩

theorem mem_flushed {a : α} : .attempt a ∈ book.flushed ↔ a ∈ book.stash.map (·.2) := by
  simp [flushed]

theorem mem_filed_attempt {note : Note α} {a : α} (h : .attempt a ∈ book.filed note) :
    a ∈ book.stash.map (·.2) ∨ note = .direct a := by
  cases note with
  | flushed => exact .inl (mem_flushed.mp h)
  | direct b =>
    rcases List.mem_append.mp h with h | h
    · exact .inl (mem_flushed.mp h)
    · obtain rfl : a = b := by simpa using h
      exact .inr rfl
  | lost b =>
    rcases List.mem_append.mp h with h | h
    · exact .inl (mem_flushed.mp h)
    · simp at h
  | _ => simp [filed] at h

theorem mem_filings_lost {notes : List (Note α)} {a : α} (h : .lost a ∈ book.filings notes) :
    .lost a ∈ notes := by
  induction notes generalizing book with
  | nil => exact absurd h List.not_mem_nil
  | cons note rest ih =>
    rcases List.mem_append.mp h with h | h
    · cases note with
      | lost b =>
        obtain rfl : a = b := by simpa [filed, flushed] using h
        exact List.mem_cons_self
      | _ => simp [filed, flushed] at h
    · exact List.mem_cons_of_mem _ (ih h)

theorem mem_next_stash {note : Note α} {a : α} (h : a ∈ (book.next note).stash.map (·.2)) :
    a ∈ book.stash.map (·.2) ∨ ∃ key, note = .kept key a := by
  cases note with
  | kept key b =>
    rw [next, List.map_append, List.mem_append] at h
    rcases h with h | h
    · exact .inl (List.map_subset _ List.filter_sublist.subset h)
    · obtain rfl : a = b := by simpa using h
      exact .inr ⟨key, rfl⟩
  | dropped key => exact .inl (List.map_subset _ List.filter_sublist.subset h)
  | flushed => simp [next] at h
  | direct _ => simp [next] at h
  | lost _ => simp [next] at h
  | _ => exact .inl h

/-- An attempt that is filed was kept from the beginning, or stems from a note whose
forerunners have been filed before it. -/
theorem origin {notes : List (Note α)} {pre post : List (Filing α)} {a : α}
    (h : pre ++ .attempt a :: post = book.filings notes) :
    a ∈ book.stash.map (·.2) ∨ ∃ ns note ns', notes = ns ++ note :: ns' ∧
      note.attempt? = some a ∧ book.filings ns <+: pre := by
  induction notes generalizing book pre with
  | nil => simp [filings] at h
  | cons note rest ih =>
    rcases split_append h with ⟨pre, rfl, hr⟩ | ⟨mid, hf, -⟩
    · rcases ih hr with hs | ⟨ns, note', ns', rfl, ha, hp⟩
      · rcases mem_next_stash hs with hs | ⟨key, rfl⟩
        · exact .inl hs
        · exact .inr ⟨[], _, rest, rfl, rfl, List.nil_prefix⟩
      · exact .inr ⟨note :: ns, note', ns', rfl, ha, List.prefix_append_right_inj _ |>.mpr hp⟩
    · have hm : .attempt a ∈ book.filed note := by rw [hf]; simp
      rcases mem_filed_attempt hm with hs | rfl
      · exact .inl hs
      · exact .inr ⟨[], _, rest, rfl, rfl, List.nil_prefix⟩

end Book

end AgentReporting
