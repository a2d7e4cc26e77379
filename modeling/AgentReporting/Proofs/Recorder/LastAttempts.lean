import AgentReporting.Proofs.Recorder.Sites
import AgentReporting.Proofs.Recorder.Unseen
import AgentReporting.Scripted.Links

/-! # Last attempts

What is kept in the stash and reported from it one call at a time has a meaning for whole
histories. Cut at its flushes, a history has the last attempt of each key in a stretch
reported, in the order of the last attempts, and then the attempt that flushed.
-/

namespace AgentReporting

variable {α : Type}

/-- The last entry of each key, in the order in which the last entries stand. -/
def lastOfEach : Entries α → Entries α
  | [] => []
  | entry :: rest =>
    if rest.any (·.1 == entry.1) then lastOfEach rest else entry :: lastOfEach rest

/-- The attempts kept between two flushes, and the one that was made outside a wait after
them, if that is what flushed them. -/
structure Stretch (α : Type) where
  kept : Entries α
  direct : Option α

def Stretch.reports (stretch : Stretch α) : List α :=
  (lastOfEach stretch.kept).map (·.2) ++ stretch.direct.toList

/-- The stretches of a history, and what is kept in the last one, which is not finished. -/
def cut (kept : Entries α) : List (Note α) → List (Stretch α) × Entries α
  | [] => ([], kept)
  | .kept key a :: rest => cut (kept ++ [(key, a)]) rest
  | .dropped key :: rest => cut (Entries.erase kept key) rest
  | .flushed :: rest => (⟨kept, none⟩ :: (cut [] rest).1, (cut [] rest).2)
  | .lost _ :: rest => (⟨kept, none⟩ :: (cut [] rest).1, (cut [] rest).2)
  | .direct a :: rest => (⟨kept, some a⟩ :: (cut [] rest).1, (cut [] rest).2)
  | _ :: rest => cut kept rest

/-- The attempts that a history has reported. -/
def settled (notes : List (Note α)) : List α := (cut [] notes).1.flatMap Stretch.reports

/-- The attempts that a history has kept back. -/
def pending (notes : List (Note α)) : Entries α := lastOfEach (cut [] notes).2

theorem lastOfEach_append (kept : Entries α) (key : String) (a : α) :
    lastOfEach (kept ++ [(key, a)]) = Entries.erase (lastOfEach kept) key ++ [(key, a)] := by
  induction kept with
  | nil => rfl
  | cons entry rest ih =>
    obtain ⟨k, v⟩ := entry
    simp only [List.cons_append, lastOfEach, List.any_append, List.any_cons, List.any_nil,
      Bool.or_false, Bool.or_eq_true, beq_iff_eq]
    by_cases hr : rest.any (·.1 == k) = true
    · simp only [hr, true_or, if_true]
      exact ih
    · by_cases hk : key = k
      · subst hk
        simp only [hr, or_true, if_true, Bool.false_eq_true, if_false]
        rw [ih]
        simp [Entries.erase]
      · simp [hr, hk, ih, Entries.erase, Ne.symm hk]

theorem lastOfEach_erase (kept : Entries α) (key : String) :
    lastOfEach (Entries.erase kept key) = Entries.erase (lastOfEach kept) key := by
  induction kept with
  | nil => rfl
  | cons entry rest ih =>
    obtain ⟨k, v⟩ := entry
    unfold Entries.erase at ih ⊢
    by_cases hk : k = key
    · subst hk
      rw [List.filter_cons_of_neg (by simp), ih, lastOfEach]
      split
      · rfl
      · rw [List.filter_cons_of_neg (by simp)]
    · -- what is erased has another key than the entry that stays
      have ha : (rest.filter fun entry => entry.1 != key).any (·.1 == k) =
          rest.any (·.1 == k) := by
        rw [List.any_filter]
        refine List.any_congr rfl fun entry => ?_
        by_cases he : entry.1 = k <;> simp [he, hk]
      rw [List.filter_cons_of_pos (by simpa using hk), lastOfEach, lastOfEach, ha, ih]
      split
      · rfl
      · rw [List.filter_cons_of_pos (by simpa using hk)]

theorem lastOfEach_sublist (kept : Entries α) : (lastOfEach kept).Sublist kept := by
  induction kept with
  | nil => exact .slnil
  | cons entry rest ih =>
    rw [lastOfEach]
    split
    · exact ih.cons _
    · exact ih.cons_cons _

/-- The stash holds the last attempt of each key kept since the last flush. -/
theorem Book.filings_eq_cut {book : Book α} {kept : Entries α} (h : book.stash = lastOfEach kept)
    (notes : List (Note α)) :
    (book.filings notes).filterMap Filing.attempt? =
        (cut kept notes).1.flatMap Stretch.reports ∧
      (book.after notes).stash = lastOfEach (cut kept notes).2 := by
  induction notes generalizing book kept with
  | nil => exact ⟨rfl, h⟩
  | cons note rest ih =>
    have hf : (book.flushed).filterMap Filing.attempt? = (lastOfEach kept).map (·.2) := by
      rw [Book.flushed, h, List.filterMap_map]
      exact congrFun List.filterMap_eq_map _
    rw [Book.filings, List.filterMap_append]
    cases note with
    | sent c answer => exact ih h
    | step => exact ih h
    | observed force name =>
      have ht : (book.filed (.observed force name)).filterMap Filing.attempt? = [] := by
        rw [Book.filed, List.filterMap_map]
        exact List.filterMap_eq_nil_iff.mpr fun _ _ => rfl
      rw [ht]
      exact ih h
    | kept key a =>
      have hk : (book.next (.kept key a)).stash = lastOfEach (kept ++ [(key, a)]) := by
        rw [lastOfEach_append, Book.next, h]
      exact ih hk
    | dropped key =>
      have hk : (book.next (.dropped key)).stash = lastOfEach (Entries.erase kept key) := by
        rw [lastOfEach_erase, Book.next, h]
      exact ih hk
    | flushed =>
      obtain ⟨hr, hs⟩ := ih (show (book.next .flushed).stash = lastOfEach [] from rfl)
      refine ⟨?_, hs⟩
      rw [cut, List.flatMap_cons, Stretch.reports, Option.toList_none, List.append_nil, hr]
      exact congrArg (· ++ _) hf
    | lost a =>
      obtain ⟨hr, hs⟩ := ih (show (book.next (.lost a)).stash = lastOfEach [] from rfl)
      refine ⟨?_, hs⟩
      rw [cut, List.flatMap_cons, Stretch.reports, Option.toList_none, List.append_nil, hr,
        Book.filed, List.filterMap_append, hf]
      exact congrArg (· ++ _) (List.append_nil _)
    | direct a =>
      obtain ⟨hr, hs⟩ := ih (show (book.next (.direct a)).stash = lastOfEach [] from rfl)
      refine ⟨?_, hs⟩
      rw [cut, List.flatMap_cons, Stretch.reports, Option.toList_some, hr, Book.filed,
        List.filterMap_append, hf]
      rfl

theorem cut_sublist (kept : Entries α) (notes : List (Note α)) :
    ((cut kept notes).1.flatMap Stretch.reports ++
      (lastOfEach (cut kept notes).2).map (·.2)).Sublist
      (kept.map (·.2) ++ notes.filterMap Note.attempt?) := by
  have hl : ((lastOfEach kept).map (·.2)).Sublist (kept.map (·.2)) :=
    (lastOfEach_sublist kept).map _
  induction notes generalizing kept with
  | nil => simpa [cut] using hl
  | cons note rest ih =>
    cases note with
    | sent c answer => exact ih kept hl
    | observed force name => exact ih kept hl
    | step => exact ih kept hl
    | kept key a =>
      have hk := ih (kept ++ [(key, a)]) ((lastOfEach_sublist _).map _)
      simpa [cut, Note.attempt?] using hk
    | dropped key =>
      have hk : (Entries.erase kept key).Sublist kept := List.filter_sublist
      have hd := ih (Entries.erase kept key) ((lastOfEach_sublist _).map _)
      exact hd.trans (.append (hk.map _) (.refl _))
    | flushed =>
      have hr := hl.append (ih [] .slnil)
      simpa [cut, Stretch.reports, Note.attempt?, List.filterMap_cons] using hr
    | lost a =>
      have hr := hl.append (ih [] .slnil)
      simpa [cut, Stretch.reports, Note.attempt?, List.filterMap_cons] using hr
    | direct a =>
      have hr := hl.append ((ih [] .slnil).cons_cons a)
      simpa [cut, Stretch.reports, Note.attempt?] using hr

namespace Turn

variable (switches : Switches)

theorem attempts_length_le (number : Nat) (turn : Turn) :
    ((turn.notes switches number).filterMap Note.attempt?).length ≤ 1 := by
  have ho : ∀ site force,
      (observation switches site force).filterMap Note.attempt? = [] := fun site force =>
    List.filterMap_eq_nil_iff.mpr fun _ h => attempt?_of_mem_observation h
  have hp : ∀ site a made, ((placement site a made).filterMap Note.attempt?).length ≤ 1 := by
    intro site a made
    refine Nat.le_trans (List.length_filterMap_le _ _) ?_
    unfold placement
    split
    · exact Nat.zero_le 1
    · split
      · split
        · split <;> exact Nat.le_refl 1
        · exact Nat.zero_le 1
      · exact Nat.le_refl 1
  cases turn with
  | cleared => exact Nat.zero_le 1
  | stepped site =>
    rw [notes]
    split
    · exact Nat.zero_le 1
    · rw [List.filterMap_append, ho]
      exact Nat.zero_le 1
  | executed site c skip answer made =>
    cases answer with
    | error fault => exact Nat.zero_le 1
    | ok response =>
      cases skip with
      | true => exact Nat.zero_le 1
      | false =>
        simp only [notes, Note.attempt?, List.filterMap_cons, Bool.false_eq_true, if_false,
          List.filterMap_append, ho, List.nil_append]
        exact hp site _ made

theorem attempts_ordered (number : Nat) (turns : List Turn) :
    ((history switches number turns).filterMap Note.attempt?).Pairwise (·.number < ·.number) := by
  induction turns generalizing number with
  | nil => exact .nil
  | cons turn rest ih =>
    rw [history, List.filterMap_append, List.pairwise_append]
    refine ⟨?_, ih (number + 1), ?_⟩
    · have hl := attempts_length_le switches number turn
      generalize (turn.notes switches number).filterMap Note.attempt? = attempts at hl
      rcases attempts with _ | ⟨a, _ | ⟨b, rest⟩⟩
      · exact .nil
      · exact List.pairwise_singleton _ a
      · exact absurd hl (by simp)
    · intro a ha b hb
      obtain ⟨note, hn, hna⟩ := List.mem_filterMap.mp ha
      obtain ⟨note', hn', hnb⟩ := List.mem_filterMap.mp hb
      obtain ⟨k, -, hk, -⟩ := turn_of_mem_history hn' hnb
      have := (of_mem_notes hn hna).1
      omega

end Turn

namespace Moment

variable {σ : Type} (links : Links σ) (m : Moment σ)

/-- What was handed over and what is stashed, in the terms of the history. -/
theorem settled_and_pending (hs : m.recorder.stash = []) (calls : List (Call σ)) :
    (m.book.filings (m.history links calls)).filterMap Filing.attempt? =
        settled (m.history links calls) ∧
      (m.book.after (m.history links calls)).stash = pending (m.history links calls) ∧
      (m.play links calls).recorder.stash.entries =
        (pending (m.history links calls)).map fun entry => (entry.1, entry.2.attempt) := by
  obtain ⟨hf, hst⟩ := Book.filings_eq_cut (show m.book.stash = lastOfEach [] from rfl)
    (m.history links calls)
  refine ⟨hf, hst, ?_⟩
  rw [← unwatched_watch, pending, ← hst]
  exact (follows_watch links m calls hs).describes.stash

theorem settled_reported (hc : links.submit.isSome = true)
    (hr : m.recorder.switches.reportsDisabled = false)
    (hd : m.recorder.switches.commandsDisabled = false) (hs : m.recorder.stash = [])
    (calls : List (Call σ)) :
    List.Forall₂ Numbered.ReportedAs (settled (m.history links calls))
      ((m.watch links calls).events.filterMap Event.command?) := by
  obtain ⟨-, -, events, he, hsh⟩ := follows_watch links m calls hs
  rw [he, events_watched, List.nil_append, ← (settled_and_pending links m hs calls).1]
  exact hsh.commands (takesCommands_watched links m hc hr hd)

theorem settled_numbered (calls : List (Call σ)) :
    (settled (m.history links calls) ++ (pending (m.history links calls)).map (·.2)).Pairwise
      (·.number < ·.number) :=
  (Turn.attempts_ordered _ _ _).sublist (cut_sublist [] _)

end Moment

end AgentReporting
