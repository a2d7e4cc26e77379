import AgentReporting.Proofs.Recorder.LastAttempts
import Mathlib.Data.List.Nodup

/-! # Journals

What a recorder reports may be switched off and on while it works. A journal keeps each
note with the terms of its time. An attempt that is kept back is reported on the terms
that hold when it is flushed, not on those under which it was made.
-/

namespace AgentReporting

structure Dated where
  terms : Terms
  note : Note Numbered

/-- What is kept under a key is reported: the next flush finds it in its place, and comes
while commands are reported. -/
inductive Released (key : String) : List Dated → Prop where
  | flushed {d : Dated} {rest : List Dated} : d.note.flushes = true →
      d.terms.takesCommands = true → Released key (d :: rest)
  | later {d : Dated} {rest : List Dated} : d.note.flushes = false →
      d.note.key? ≠ some key → Released key rest → Released key (d :: rest)

namespace Terms.Shown

variable {terms : Terms} {fs : List (Filing Numbered)} {events : List Event}

theorem no_commands (h : terms.Shown fs events) (ht : terms.takesCommands = false) :
    events.filterMap Event.command? = [] := by
  induction h with
  | nil => rfl
  | @cons f fs block events hf _ ih =>
    rw [List.filterMap_append, ih, List.append_nil]
    cases hf with
    | sent c answer => rfl
    | untaken => rfl
    | lost hk => cases ht.symm.trans hk
    | handed hk hh =>
      cases hh with
      | test name => rfl
      | step report => rfl
      | attempt hl => cases ht.symm.trans hk

end Terms.Shown

namespace Book

variable (book : Book Numbered)

/-- The attempts that are reported in the course of a journal: those that are filed while
commands are reported. -/
def reported (book : Book Numbered) : List Dated → List Numbered
  | [] => []
  | d :: rest =>
    (if d.terms.takesCommands then (book.filed d.note).filterMap Filing.attempt? else []) ++
      (book.next d.note).reported rest

theorem reported_append (xs ys : List Dated) :
    book.reported (xs ++ ys) =
      book.reported xs ++ (book.after (xs.map (·.note))).reported ys := by
  induction xs generalizing book with
  | nil => rfl
  | cons d rest ih =>
    simp only [List.cons_append, reported, ih, List.append_assoc]
    rfl

/-- As long as the terms hold, either all that is filed is reported or nothing is. -/
theorem reported_of_terms (terms : Terms) (notes : List (Note Numbered)) :
    book.reported (notes.map (Dated.mk terms)) =
      if terms.takesCommands then (book.filings notes).filterMap Filing.attempt? else [] := by
  induction notes generalizing book with
  | nil => simp [reported, filings]
  | cons note rest ih =>
    rw [List.map_cons, reported, ih, filings, List.filterMap_append]
    split <;> rfl

variable {book} {journal : List Dated} {a : Numbered}

/-- The attempts that are kept back, and those that are made in a journal. -/
def attempts (book : Book Numbered) (journal : List Dated) : List Numbered :=
  book.stash.map (·.2) ++ journal.filterMap (·.note.attempt?)

theorem filed_append_sublist (d : Dated) (rest : List Dated) :
    ((book.filed d.note).filterMap Filing.attempt? ++ (book.next d.note).attempts rest).Sublist
      (book.attempts (d :: rest)) := by
  have hf : book.flushed.filterMap Filing.attempt? = book.stash.map (·.2) := by
    rw [flushed, List.filterMap_map]
    exact congrFun List.filterMap_eq_map _
  obtain ⟨terms, note⟩ := d
  cases note with
  | kept key b =>
    have he : ((Entries.erase book.stash key).map (·.2)).Sublist (book.stash.map (·.2)) :=
      List.filter_sublist.map _
    simpa [attempts, filed, next, Note.attempt?] using he
  | dropped key =>
    have he : ((Entries.erase book.stash key).map (·.2)).Sublist (book.stash.map (·.2)) :=
      List.filter_sublist.map _
    simpa [attempts, filed, next, Note.attempt?] using he
  | direct b => simp [attempts, filed, hf, next, Note.attempt?, Filing.attempt?]
  | lost b => simp [attempts, filed, hf, next, Note.attempt?, Filing.attempt?]
  | flushed => simp [attempts, filed, hf, next, Note.attempt?]
  | observed force name =>
    have ht : (book.filed (.observed force name)).filterMap Filing.attempt? = [] := by
      rw [filed, List.filterMap_map]
      exact List.filterMap_eq_nil_iff.mpr fun _ _ => rfl
    rw [ht]
    exact .refl _
  | sent c answer => exact .refl _
  | step => exact .refl _

theorem attempts_next_sublist (d : Dated) (rest : List Dated) :
    ((book.next d.note).attempts rest).Sublist (book.attempts (d :: rest)) :=
  (List.sublist_append_right _ _).trans (filed_append_sublist d rest)

theorem attempts_after_sublist (xs ys : List Dated) :
    ((book.after (xs.map (·.note))).attempts ys).Sublist (book.attempts (xs ++ ys)) := by
  induction xs generalizing book with
  | nil => exact .refl _
  | cons d rest ih => exact ih.trans (attempts_next_sublist d (rest ++ ys))

theorem reported_sublist (journal : List Dated) :
    (book.reported journal).Sublist (book.attempts journal) := by
  induction journal generalizing book with
  | nil => exact List.nil_sublist _
  | cons d rest ih =>
    refine List.Sublist.trans (List.Sublist.append ?_ ih) (filed_append_sublist d rest)
    split
    · exact .refl _
    · exact List.nil_sublist _

theorem mem_attempts_of_reported (h : a ∈ book.reported journal) : a ∈ book.attempts journal :=
  (reported_sublist journal).subset h

section Kept

variable {note : Note Numbered} {key : String}

theorem stash_of_flushes (hf : note.flushes = true) : (book.next note).stash = [] := by
  cases note with
  | flushed => rfl
  | direct b => rfl
  | lost b => rfl
  | _ => cases hf

theorem filed_of_flushes (hf : note.flushes = true) (h : (key, a) ∈ book.stash) :
    .attempt a ∈ book.filed note := by
  have hb : .attempt a ∈ book.flushed := mem_flushed.mpr (List.mem_map_of_mem h)
  cases note with
  | flushed => exact hb
  | direct b => exact List.mem_append_left _ hb
  | lost b => exact List.mem_append_left _ hb
  | _ => cases hf

theorem filed_of_not_flushes (hf : note.flushes = false) :
    (book.filed note).filterMap Filing.attempt? = [] := by
  cases note with
  | flushed => cases hf
  | direct b => cases hf
  | lost b => cases hf
  | observed force name =>
    rw [filed, List.filterMap_map]
    exact List.filterMap_eq_nil_iff.mpr fun _ _ => rfl
  | _ => rfl

theorem kept_next (h : (key, a) ∈ book.stash) (hf : note.flushes = false)
    (hk : note.key? ≠ some key) : (key, a) ∈ (book.next note).stash := by
  cases note with
  | flushed => cases hf
  | direct b => cases hf
  | lost b => cases hf
  | kept other b =>
    exact List.mem_append_left _ (mem_erase h fun ho => hk (congrArg some ho))
  | dropped other => exact mem_erase h fun ho => hk (congrArg some ho)
  | _ => exact h

/-- A flush, or a later attempt under the same key, takes an attempt out of the stash for good. -/
theorem notMem_next {d : Dated} {rest : List Dated} (h : (key, a) ∈ book.stash)
    (hd : (book.attempts (d :: rest)).Nodup)
    (hn : d.note.flushes = true ∨ d.note.key? = some key) :
    a ∉ (book.next d.note).reported rest := by
  obtain ⟨hs, -, hj⟩ := List.nodup_append.mp hd
  have once : a ∉ (d :: rest).filterMap (·.note.attempt?) := fun hm =>
    hj a (List.mem_map_of_mem h) a hm rfl
  have erased : a ∉ (Entries.erase book.stash key).map (·.2) := by
    intro hm
    obtain ⟨⟨other, b⟩, he, rfl⟩ := List.mem_map.mp hm
    obtain ⟨hm, ho⟩ := List.mem_filter.mp he
    have hk := List.inj_on_of_nodup_map hs h hm rfl
    simp [← (Prod.mk.inj hk).1] at ho
  intro hr
  rcases List.mem_append.mp (mem_attempts_of_reported hr) with hm | hm
  · rcases hn with hf | hk
    · rw [stash_of_flushes hf] at hm
      exact List.not_mem_nil hm
    · obtain ⟨terms, note⟩ := d
      cases note with
      | kept other b =>
        obtain rfl := Option.some.inj hk
        rw [next, List.map_append, List.mem_append] at hm
        rcases hm with hm | hm
        · exact erased hm
        · refine once (List.mem_filterMap.mpr ⟨_, List.mem_cons_self, ?_⟩)
          rw [List.mem_singleton.mp hm]
          rfl
      | dropped other =>
        obtain rfl := Option.some.inj hk
        exact erased hm
      | _ => cases hk
  · exact once ((List.sublist_cons_self d rest).filterMap _ |>.subset hm)

theorem reported_iff_of_kept (h : (key, a) ∈ book.stash) (hd : (book.attempts journal).Nodup) :
    a ∈ book.reported journal ↔ Released key journal := by
  induction journal generalizing book with
  | nil =>
    constructor
    · intro hr
      exact absurd hr List.not_mem_nil
    · rintro ⟨⟩
  | cons d rest ih =>
    by_cases hf : d.note.flushes = true
    · rw [reported, List.mem_append, or_iff_left (notMem_next h hd (.inl hf))]
      constructor
      · intro hr
        split at hr
        · exact .flushed hf ‹_›
        · exact absurd hr List.not_mem_nil
      · intro hr
        cases hr with
        | flushed _ ht =>
          rw [if_pos ht]
          exact Filing.mem_attempts.mpr (filed_of_flushes hf h)
        | later hn => cases hf.symm.trans hn
    · have hf : d.note.flushes = false := by simpa using hf
      rw [reported, filed_of_not_flushes hf, ite_self, List.nil_append]
      by_cases hk : d.note.key? = some key
      · refine iff_of_false (notMem_next h hd (.inr hk)) ?_
        intro hr
        cases hr with
        | flushed ht => cases hf.symm.trans ht
        | later _ hn => exact hn hk
      · rw [ih (kept_next h hf hk) (hd.sublist (attempts_next_sublist d rest))]
        constructor
        · exact .later hf hk
        · intro hr
          cases hr with
          | flushed ht => cases hf.symm.trans ht
          | later _ _ hr => exact hr

/-- An attempt of a journal is reported if it was made outside a wait while commands were
reported, or kept in a wait and released. -/
theorem reported_iff {pre post : List Dated} {d : Dated} (ha : d.note.attempt? = some a)
    (hd : (book.attempts (pre ++ d :: post)).Nodup) :
    a ∈ book.reported (pre ++ d :: post) ↔
      (d.note = .direct a ∧ d.terms.takesCommands = true) ∨
        ∃ key, d.note = .kept key a ∧ Released key post := by
  rw [reported_append, List.mem_append]
  have hm : a ∈ (d :: post).filterMap (·.note.attempt?) :=
    List.mem_filterMap.mpr ⟨d, List.mem_cons_self, ha⟩
  have hp : a ∉ book.reported pre := by
    intro hr
    rw [attempts, List.filterMap_append, ← List.append_assoc] at hd
    exact (List.nodup_append.mp hd).2.2 a (mem_attempts_of_reported hr) a hm rfl
  have hd := hd.sublist (attempts_after_sublist pre (d :: post))
  rw [or_iff_right hp]
  generalize book.after (pre.map (·.note)) = book at hd
  have hn := hd.sublist (attempts_next_sublist d post)
  obtain ⟨terms, note⟩ := d
  cases note with
  | kept key b =>
    obtain rfl : b = a := Option.some.inj ha
    have hs : (key, b) ∈ (book.next (.kept key b)).stash :=
      List.mem_append_right _ List.mem_cons_self
    have hr : book.reported (⟨terms, .kept key b⟩ :: post) =
        (book.next (.kept key b)).reported post := by simp [reported, filed]
    rw [hr, reported_iff_of_kept hs hn]
    simp
  | direct b =>
    obtain rfl : b = a := Option.some.inj ha
    have hg : b ∉ (book.next (.direct b)).reported post := fun hr =>
      (List.nodup_cons.mp (List.nodup_append.mp hd).2.1).1 (mem_attempts_of_reported hr)
    rw [reported, List.mem_append, or_iff_left hg]
    cases terms.takesCommands <;> simp [filed, Filing.attempt?]
  | _ => cases ha

end Kept

end Book

end AgentReporting
