import AgentReporting.Proofs.Recorder.Shown

/-! # Recorders follow their books

From one moment to the next a recorder does what the notes in its book say: its stash and
its test are those of the book, and what passes over the links is what is filed.
-/

namespace AgentReporting

variable {σ : Type}

namespace Recorder

def terms (links : Links σ) (recorder : Recorder) : Terms :=
  ⟨links.submit.isSome, recorder.switches, recorder.capabilities⟩

theorem sink?_eq_none {links : Links σ} {recorder : Recorder}
    (h : (terms links recorder).takesReports = false) : sink? links recorder = none := by
  unfold sink?
  cases hd : recorder.switches.reportsDisabled with
  | true => rfl
  | false =>
    rw [Terms.takesReports, terms, hd, Bool.not_false, Bool.and_true] at h
    simpa using h

theorem sink?_eq_some {links : Links σ} {recorder : Recorder}
    (h : (terms links recorder).takesReports = true) :
    ∃ submit, sink? links recorder = some submit ∧ links.submit = some submit := by
  obtain ⟨hc, hd⟩ := Bool.and_eq_true_iff.mp h
  obtain ⟨submit, hs⟩ := Option.isSome_iff_exists.mp hc
  have hd : recorder.switches.reportsDisabled = false := by simpa [terms] using hd
  exact ⟨submit, by rw [sink?, hd]; exact hs, hs⟩

end Recorder

theorem Entries.erase_map {α β : Type} (f : α → β) (entries : Entries α) (key : String) :
    Entries.erase (entries.map fun entry => (entry.1, f entry.2)) key =
      (Entries.erase entries key).map fun entry => (entry.1, f entry.2) :=
  List.filter_map

theorem Copy.command_copied (copy : Copy) : copy.command.copyFault? = none := by
  have h := copy.copied
  unfold Attempted.copyFault? at h
  cases hc : copy.command.copyFault? with
  | none => rfl
  | some fault => simp [hc] at h

/-- What is stashed is told by its entries: that they could be copied adds nothing. -/
theorem Stash.entries_injective : Function.Injective entries := by
  refine List.map_injective_iff.mpr ?_
  rintro ⟨key, ⟨a, ha⟩⟩ ⟨other, ⟨b, hb⟩⟩ h
  obtain ⟨rfl, rfl⟩ := Prod.mk.inj h
  rfl

theorem Stash.attempts_eq (stash : Stash) : stash.attempts = stash.entries.map (·.2) := by
  rw [entries, List.map_map]
  rfl

theorem Stash.entries_put (stash : Stash) (key : String) (a : Attempted) :
    (stash.put key a).entries =
      Entries.erase stash.entries key ++ if a.copyFault? = none then [(key, a)] else [] := by
  rw [put, entries, List.map_append, entries, Entries.erase_map]
  unfold Attempted.copy?
  split <;> rfl

namespace Book

/-- The stash and the test of a recorder are those of the book. -/
structure Describes (book : Book Numbered) (recorder : Recorder) : Prop where
  stash : recorder.stash.entries = book.stash.map fun entry => (entry.1, entry.2.attempt)
  test : recorder.currentTest = book.test

end Book

namespace Moment

open Recorder

variable (links : Links σ) {m : Moment (Watched σ)}

theorem redacted_shows (m : Moment (Watched σ)) (c : Command) : ∃ lookups secret,
    (terms links.watched m.recorder).Lookups c lookups secret ∧
      (m.run (redacted links.watched c)).1 = Redaction.disguise secret c ∧
      (m.run (redacted links.watched c)).2.events = m.events ++ lookups ∧
      (m.run (redacted links.watched c)).2.recorder = m.recorder := by
  unfold redacted
  rw [run_bind, run_get]
  cases hd : m.recorder.switches.redactionDisabled with
  | true => exact ⟨[], false, .off hd, rfl, (List.append_nil _).symm, rfl⟩
  | false =>
    obtain ⟨lookups, secret, hi, hc, he⟩ :=
      Redaction.redact_told links m.recorder.capabilities c m.trail
    exact ⟨lookups, secret, .made hd hi, hc, he, rfl⟩

theorem tellCommand_shows (m : Moment (Watched σ)) (a : Numbered) :
    let told := m.run (tellCommand links.watched a.attempt .null)
    ∃ block, (terms links.watched m.recorder).Shows (.tried told.1.isOk a) block ∧
      told.2.events = m.events ++ block ∧ told.2.recorder = m.recorder := by
  intro told
  rw [show told = m.run (tellCommand links.watched a.attempt .null) from rfl]
  unfold tellCommand
  rw [run_bind, run_get]
  cases hc : m.recorder.switches.commandsDisabled with
  | true =>
    have hu : (terms links.watched m.recorder).takesCommands = false := by
      simp [Terms.takesCommands, terms, hc]
    exact ⟨[], .untaken hu, (List.append_nil _).symm, rfl⟩
  | false =>
    simp only [Bool.false_eq_true, if_false]
    have ht : (terms links.watched m.recorder).takesCommands =
        (terms links.watched m.recorder).takesReports := by
      simp [Terms.takesCommands, terms, hc]
    cases hr : (terms links.watched m.recorder).takesReports with
    | false =>
      rw [sink?_eq_none hr]
      exact ⟨[], .untaken (ht.trans hr), (List.append_nil _).symm, rfl⟩
    | true =>
      obtain ⟨submit, hs, hw⟩ := sink?_eq_some hr
      obtain ⟨lookups, secret, hl, hm, he, hk⟩ := redacted_shows links m a.attempt.command
      rw [hs]
      simp only [run_bind, hm]
      generalize (m.run (redacted links.watched a.attempt.command)).2 = after at he hk
      cases hd : Redaction.disguise secret a.attempt.command with
      | error fault =>
        obtain ⟨rfl, hf⟩ := Redaction.disguise_eq_error_iff.mp hd
        exact ⟨lookups, .lost (ht.trans hr) hl (by rw [hf]; rfl), he, hk⟩
      | ok c =>
        obtain rfl := Redaction.eq_of_disguise hd
        refine ⟨_, .handed (ht.trans hr) (.attempt hl), ?_, hk⟩
        rw [← List.append_assoc, ← he]
        exact events_submit links after.trail hw _

theorem reported_shows (m : Moment (Watched σ)) (refusal : String) (a : Numbered) :
    let told := m.run (tellCommand links.watched a.attempt .null)
    ∃ block, (terms links.watched m.recorder).Shows (.tried told.1.isOk a) block ∧
      (m.reported links.watched refusal a.attempt).events = m.events ++ block ∧
      (m.reported links.watched refusal a.attempt).recorder = m.recorder := by
  intro told
  obtain ⟨block, hb, he, hk⟩ := tellCommand_shows links m a
  refine ⟨block, hb, ?_⟩
  rw [reported, run_reportCommand_eq]
  split
  · exact ⟨he, hk⟩
  · exact ⟨he, hk⟩

theorem isOk_tellCommand (links : Links σ) (m : Moment σ) {a : Attempted}
    (h : a.command.copyFault? = none) (screenshot : Value) :
    (m.run (tellCommand links a screenshot)).1.isOk = true := by
  have hok : (m.run (redacted links a.command)).1.isOk = true := by
    unfold redacted
    rw [run_bind, run_get]
    split
    · rfl
    · change (Redaction.disguise _ a.command).isOk = true
      unfold Redaction.disguise
      split
      · rw [h]
        rfl
      · rfl
  unfold tellCommand
  rw [run_bind, run_get]
  split
  · rfl
  · cases sink? links m.recorder with
    | none => rfl
    | some submit =>
      simp only [run_bind]
      cases hr : (m.run (redacted links a.command)).1 with
      | error fault =>
        rw [hr] at hok
        cases hok
      | ok c => rfl

theorem reportCopies_shows (m : Moment (Watched σ)) {as : List Numbered} {copies : List Copy}
    (h : as.map (·.attempt) = copies.map (·.toAttempted)) : ∃ events,
    (terms links.watched m.recorder).Shown (as.map .attempt) events ∧
      (m.run (reportCopies links.watched copies)).2.events = m.events ++ events ∧
      (m.run (reportCopies links.watched copies)).2.recorder = m.recorder := by
  induction copies generalizing m as with
  | nil =>
    obtain rfl := List.map_eq_nil_iff.mp h
    exact ⟨[], .nil, (List.append_nil _).symm, rfl⟩
  | cons copy rest ih =>
    obtain ⟨a, as, rfl, ha, hrest⟩ := List.map_eq_cons_iff.mp h
    obtain ⟨block, hb, he, hk⟩ := reported_shows links m
      s!"Failed to report stashed command [{copy.command.name}]" a
    rw [isOk_tellCommand links.watched m (ha ▸ copy.command_copied)] at hb
    rw [ha] at he hk
    obtain ⟨events, hs, he', hk'⟩ := ih (m.reported links.watched
      s!"Failed to report stashed command [{copy.command.name}]" copy.toAttempted) hrest
    rw [hk] at hs hk'
    refine ⟨block ++ events, .cons hb hs, ?_, ?_⟩
    · rw [run_reportCopies_cons, he', he, List.append_assoc]
    · rw [run_reportCopies_cons, hk']

theorem events_takeScreenshot (camera : Option (Attempt σ Value)) (t : Trail (Watched σ)) :
    ((takeScreenshot (Watched.camera camera)).run t).2.events = t.events := by
  unfold takeScreenshot
  cases camera with
  | none => rfl
  | some take =>
    have he : ((Attempt.ofResult (Watched.within take.result)).result.run t).2.events =
      t.events := events_within t take.result
    simp only [Watched.camera, Option.map_some, StateT.run_bind]
    generalize (Attempt.ofResult (Watched.within take.result)).result.run t = done at he
    obtain ⟨shot, after⟩ := done
    cases shot with
    | error fault => exact he
    | ok shot => exact he

theorem events_shot (camera : Option (Attempt σ Value)) (request : StepRequest)
    (t : Trail (Watched σ)) :
    ((shot (Watched.camera camera) request).run t).2.events = t.events := by
  unfold shot
  cases request.screenshot with
  | true => exact events_takeScreenshot camera t
  | false => rfl

theorem describe_shows (m : Moment (Watched σ)) (camera : Option (Attempt σ Value))
    (request : StepRequest) :
    let op := describe links.watched (Watched.camera camera) request
    ∃ block, (terms links.watched m.recorder).Shows .step block ∧
      (m.run op).2.events = m.events ++ block ∧ (m.run op).2.recorder = m.recorder := by
  intro op
  have ho : m.run op = m.run (describe links.watched (Watched.camera camera) request) := rfl
  rw [ho]
  unfold describe
  rw [run_bind, run_get]
  cases hr : (terms links.watched m.recorder).takesReports with
  | false =>
    rw [sink?_eq_none hr]
    exact ⟨[], .untaken hr, (List.append_nil _).symm, rfl⟩
  | true =>
    obtain ⟨submit, hs, hw⟩ := sink?_eq_some hr
    have he := events_shot camera request m.trail
    rw [hs]
    simp only [run_bind, run_liftM]
    generalize (shot (Watched.camera camera) request).run m.trail = done at he
    have hh : ∀ report, ((submit (.step report)).run (Act.freshId.run done.2).2).2.events =
        m.events ++ [.handed (.step report)] := by
      intro report
      rw [events_submit links _ hw]
      exact congrArg (· ++ _) he
    exact ⟨_, .handed hr (.step _), hh _, trivial⟩

/-- Between two moments a recorder and its links did what the notes say. -/
structure Follows (book : Book Numbered) (notes : List (Note Numbered))
    (m m' : Moment (Watched σ)) : Prop where
  describes : (book.after notes).Describes m'.recorder
  terms : terms links.watched m'.recorder = terms links.watched m.recorder
  shown : ∃ events, m'.events = m.events ++ events ∧
    (Recorder.terms links.watched m.recorder).Shown (book.filings notes) events

namespace Follows

variable {links} {book : Book Numbered}

theorem refl (h : book.Describes m.recorder) : Follows links book [] m m :=
  ⟨h, rfl, [], (List.append_nil _).symm, .nil⟩

theorem trans {xs ys : List (Note Numbered)} {m' m'' : Moment (Watched σ)}
    (h : Follows links book xs m m') (h' : Follows links (book.after xs) ys m' m'') :
    Follows links book (xs ++ ys) m m'' := by
  obtain ⟨_, ht, events, he, hs⟩ := h
  obtain ⟨hb, ht', more, he', hs'⟩ := h'
  refine ⟨by rwa [Book.after_append], ht'.trans ht, events ++ more, ?_, ?_⟩
  · rw [he', he, List.append_assoc]
  · rw [Book.filings_append]
    rw [ht] at hs'
    exact hs.append hs'

theorem single {note : Note Numbered} {m' : Moment (Watched σ)} {events : List Event}
    (hb : (book.next note).Describes m'.recorder)
    (ht : Recorder.terms links.watched m'.recorder = Recorder.terms links.watched m.recorder)
    (he : m'.events = m.events ++ events)
    (hs : (Recorder.terms links.watched m.recorder).Shown (book.filed note) events) :
    Follows links book [note] m m' :=
  ⟨hb, ht, events, he, by simpa only [Book.filings, List.append_nil] using hs⟩

variable (links)

theorem sent (h : book.Describes m.recorder) (c : Command) :
    let done := (links.watched.send c).result.run m.trail
    Follows links book [.sent c done.1] m { m with trail := done.2 } :=
  single h rfl (events_send links m.trail c) (Terms.Shows.sent c _).shown

theorem kept (h : book.Describes m.recorder) (key : String) {a : Numbered}
    (hc : a.attempt.copyFault? = none) :
    Follows links book [.kept key a] m (m.stashed key a.attempt) := by
  refine single ⟨?_, h.test⟩ rfl (List.append_nil _).symm .nil
  rw [stashed, Stash.entries_put, if_pos hc, h.stash, Book.next, List.map_append,
    Entries.erase_map]
  rfl

theorem dropped (h : book.Describes m.recorder) (key : String) {a : Numbered}
    (hc : a.attempt.copyFault? ≠ none) :
    Follows links book [.dropped key] m (m.stashed key a.attempt) := by
  refine single ⟨?_, h.test⟩ rfl (List.append_nil _).symm .nil
  rw [stashed, Stash.entries_put, if_neg hc, List.append_nil, h.stash, Book.next,
    Entries.erase_map]

theorem cleared_shows (h : book.Describes m.recorder) : ∃ events,
    (Recorder.terms links.watched m.recorder).Shown book.flushed events ∧
      (m.cleared links.watched).events = m.events ++ events ∧
      (m.cleared links.watched).recorder = { m.recorder with stash := [] } := by
  have ha : (book.stash.map (·.2)).map (·.attempt) =
      (m.recorder.stash.map (·.2)).map (·.toAttempted) := by
    have hs := m.recorder.stash.attempts_eq
    rw [h.stash, Stash.attempts, List.map_map] at hs
    rw [List.map_map, List.map_map]
    exact hs.symm
  obtain ⟨events, hs, he, hk⟩ := reportCopies_shows links
    { m with recorder := { m.recorder with stash := [] } } ha
  rw [← cleared_eq] at he hk
  rw [List.map_map] at hs
  exact ⟨events, hs, he, hk⟩

theorem flushed (h : book.Describes m.recorder) :
    Follows links book [.flushed] m (m.cleared links.watched) := by
  obtain ⟨events, hs, he, hk⟩ := cleared_shows links h
  refine single ⟨?_, ?_⟩ ?_ he hs
  · rw [hk]; rfl
  · rw [hk]; exact h.test
  · rw [hk]; rfl

theorem tried (h : book.Describes m.recorder) (refusal : String) (a : Numbered) :
    Follows links book [.tried (m.told links.watched a.attempt).isOk a] m
      ((m.cleared links.watched).reported links.watched refusal a.attempt) := by
  obtain ⟨events, hs, he, hk⟩ := cleared_shows links h
  obtain ⟨block, hb, he', hk'⟩ :=
    reported_shows links (m.cleared links.watched) refusal a
  rw [hk] at hk' hb
  have hf (made : Bool) : book.filed (.tried made a) = book.flushed ++ [.tried made a] := by
    cases made <;> rfl
  have hn (made : Bool) : book.next (.tried made a) = { book with stash := [] } := by
    cases made <;> rfl
  refine single ⟨?_, ?_⟩ ?_ ?_ (hf _ ▸ hs.append hb.shown)
  · rw [hk', hn]; rfl
  · rw [hk', hn]; exact h.test
  · rw [hk']; rfl
  · rw [he', he, List.append_assoc]

theorem observed (h : book.Describes m.recorder) (name : Option String) (force : Bool) :
    Follows links book [.observed force name] m
      (m.run (reportTest links.watched name force)).2 := by
  have hb : (book.next (.observed force name)).Describes
      { m.recorder with currentTest := (TestPeriod.observe force name book.test).1 } :=
    ⟨h.stash, rfl⟩
  unfold reportTest
  rw [run_bind, run_get, h.test]
  simp only [run_bind, run_set]
  cases he : (TestPeriod.observe force name book.test).2 with
  | none =>
    refine single hb rfl (List.append_nil _).symm ?_
    rw [Book.filed, he]
    exact .nil
  | some test =>
    have hf : book.filed (.observed force name) = [.test test] := by rw [Book.filed, he]; rfl
    cases hr : (Recorder.terms links.watched m.recorder).takesReports with
    | false =>
      rw [sink?_eq_none hr]
      refine single hb rfl (List.append_nil _).symm ?_
      rw [hf]
      exact Terms.Shows.shown (.untaken hr)
    | true =>
      obtain ⟨submit, hs, hw⟩ := sink?_eq_some hr
      rw [hs]
      refine single hb rfl (events_submit links m.trail hw _) ?_
      rw [hf]
      exact Terms.Shows.shown (@Terms.Shows.handed _ (.test test) [] _ hr (.test test))

theorem described (h : book.Describes m.recorder) (camera : Option (Attempt σ Value))
    (request : StepRequest) :
    Follows links book [.step] m
      (m.run (describe links.watched (Watched.camera camera) request)).2 := by
  obtain ⟨block, hb, he, hk⟩ := describe_shows links m camera request
  refine single ?_ ?_ he hb.shown
  · rw [hk]; exact h
  · rw [hk]

end Follows

end Moment

end AgentReporting
