import AgentReporting.Proofs.Recorder.LastAttempts
import AgentReporting.Proofs.Recorder.Sites

/-! # Ends of test periods

A test is closed before anything else is reported in the same call. By then each attempt
made so far is reported, or overtaken by a later one with its key, or still in the stash:
attempts that a wait left there are reported after the test that they were made in.
-/

namespace AgentReporting

variable {α : Type}

/-- An attempt with the given key is made in a wait before anything is flushed. -/
def Overtaken (key : String) (notes : List (Note α)) : Prop :=
  ∃ mid note post, notes = mid ++ note :: post ∧ note.key? = some key ∧
    ∀ note ∈ mid, note.flushes = false

def Superseded (a : α) (notes : List (Note α)) : Prop :=
  ∃ pre key post, notes = pre ++ .kept key a :: post ∧ Overtaken key post

theorem Overtaken.cons {key : String} {note : Note α} {notes : List (Note α)}
    (h : Overtaken key notes) (hn : note.flushes = false) : Overtaken key (note :: notes) := by
  obtain ⟨mid, a, post, rfl, hk, hm⟩ := h
  exact ⟨note :: mid, a, post, rfl, hk, List.forall_mem_cons.mpr ⟨hn, hm⟩⟩

namespace Book

variable {book : Book α} {notes : List (Note α)} {a : α}

/-- What is kept is filed in the end, or overtaken, or kept on. -/
theorem fate_of_kept {key : String} (h : (key, a) ∈ book.stash) (notes : List (Note α)) :
    .attempt a ∈ book.filings notes ∨ Overtaken key notes ∨
      (key, a) ∈ (book.after notes).stash := by
  induction notes generalizing book with
  | nil => exact .inr (.inr h)
  | cons note rest ih =>
    have hf : .attempt a ∈ book.flushed := mem_flushed.mpr (List.mem_map_of_mem h)
    -- a note that leaves the entry where it is passes the question on
    have on (hs : (key, a) ∈ (book.next note).stash) (hn : note.flushes = false) :
        .attempt a ∈ book.filings (note :: rest) ∨ Overtaken key (note :: rest) ∨
          (key, a) ∈ (book.after (note :: rest)).stash := by
      rcases ih hs with hr | ho | hk
      · exact .inl (List.mem_append_right _ hr)
      · exact .inr (.inl (ho.cons hn))
      · exact .inr (.inr hk)
    cases note with
    | sent c answer => exact on h rfl
    | observed force name => exact on h rfl
    | step => exact on h rfl
    | flushed => exact .inl (List.mem_append_left _ hf)
    | direct b => exact .inl (List.mem_append_left _ (List.mem_append_left _ hf))
    | lost b => exact .inl (List.mem_append_left _ (List.mem_append_left _ hf))
    | kept other b =>
      by_cases hk : other = key
      · exact .inr (.inl ⟨[], _, rest, rfl, congrArg some hk, by simp⟩)
      · exact on (List.mem_append_left _ (mem_erase h hk)) rfl
    | dropped other =>
      by_cases hk : other = key
      · exact .inr (.inl ⟨[], _, rest, rfl, congrArg some hk, by simp⟩)
      · exact on (mem_erase h hk) rfl

theorem fate_of_attempt (book : Book α) {note : Note α}
    (h : note ∈ notes) (ha : note.attempt? = some a) :
    .attempt a ∈ book.filings notes ∨ Superseded a notes ∨
      ∃ key, (key, a) ∈ (book.after notes).stash := by
  obtain ⟨pre, post, rfl⟩ := List.append_of_mem h
  rw [filings_append, after_append, filings]
  cases note with
  | direct b =>
    cases ha
    exact .inl (List.mem_append_right _ (List.mem_append_left _ (by simp [filed])))
  | kept key b =>
    cases ha
    have hs : (key, a) ∈ ((book.after pre).next (.kept key a)).stash := by simp [next]
    rcases fate_of_kept hs post with hf | ho | hk
    · exact .inl (List.mem_append_right _ (List.mem_append_right _ hf))
    · exact .inr (.inl ⟨pre, key, post, rfl, ho⟩)
    · exact .inr (.inr ⟨key, hk⟩)
  | _ => cases ha

end Book

namespace Turn

variable {switches : Switches} {book : Book Numbered} {site : Callsite}

theorem filings_observation (switches : Switches) (book : Book Numbered) (site : Callsite)
    (force : Bool) : ∃ ended : Option String,
    book.filings (observation switches site force) = ended.toList.map .test := by
  unfold observation
  split
  · exact ⟨none, rfl⟩
  · exact ⟨_, List.append_nil _⟩

theorem test_notMem_placement (a : Numbered) (made : Bool) (name : String) :
    .test name ∉ book.filings (placement site a made) := by
  unfold placement
  split
  · exact List.not_mem_nil
  · split
    · split
      · cases made <;> simp [Book.filings, Book.filed]
      · simp [Book.filings]
    · cases made <;> simp [Note.tried, Book.filings, Book.filed, Book.flushed]

theorem eq_nil_of_test {ended : Option String} {pre post rest : List (Filing Numbered)}
    {name : String} (h : pre ++ .test name :: post = ended.toList.map .test ++ rest)
    (hr : .test name ∉ rest) : pre = [] := by
  rcases split_append h with ⟨mid, -, rfl⟩ | ⟨mid, he, -⟩
  · simp at hr
  · cases ended with
    | none => simp at he
    | some test =>
      cases pre with
      | nil => rfl
      | cons f pre => simp at he

theorem sent_of_before_test {turn : Turn} {number : Nat} {pre post : List (Filing Numbered)}
    {name : String} (h : pre ++ .test name :: post = book.filings (turn.notes switches number)) :
    ∀ f ∈ pre, ∃ c answer, f = .sent c answer := by
  cases turn with
  | cleared =>
    have hm : .test name ∈ book.filings [.flushed] := by
      rw [show book.filings [.flushed] = _ from h.symm]; simp
    simp [Book.filings, Book.filed, Book.flushed] at hm
  | stepped site =>
    rw [notes] at h
    split at h
    · simp [Book.filings] at h
    · obtain ⟨ended, he⟩ := filings_observation switches book site false
      rw [Book.filings_append, he] at h
      rw [eq_nil_of_test h (by simp [Book.filings, Book.filed])]
      exact fun f hf => absurd hf List.not_mem_nil
  | executed site c skip answer made =>
    -- the command comes first, and a test at most second
    cases pre with
    | nil => exact fun f hf => absurd hf List.not_mem_nil
    | cons first pre =>
      obtain ⟨rfl, ht⟩ := List.cons_eq_cons.mp h
      have hp : pre = [] := by
        cases answer with
        | error fault => exact absurd ht (by simp [Book.filings])
        | ok response =>
          cases skip with
          | true => exact absurd ht (by simp [Book.filings])
          | false =>
            obtain ⟨ended, he⟩ := filings_observation switches book site c.isQuit
            change _ = book.filings (observation switches site c.isQuit ++ _) at ht
            rw [Book.filings_append, he] at ht
            exact eq_nil_of_test ht (test_notMem_placement _ _ _)
      subst hp
      intro f hf
      exact ⟨c, answer, List.mem_singleton.mp hf⟩

end Turn

namespace Moment

variable {σ : Type} (links : Links σ) (m : Moment σ)

theorem test_handed_first {terms : Terms} {book : Book Numbered} {switches : Switches}
    {number : Nat} {turn : Turn} {pre post : List Event} {test : TestReport}
    (h : terms.Shown (book.filings (turn.notes switches number))
      (pre ++ .handed (.test test) :: post)) (s : Submission) : .handed s ∉ pre := by
  obtain ⟨f, earlier, lookups, fs, gs, hf, rfl, hb, -, -, hh⟩ := h.handed
  cases hh with
  | test name =>
    rw [List.append_nil]
    exact hb.not_handed (Turn.sent_of_before_test hf.symm)

/-- Of the attempts made before a turn, only those that are kept are filed from then on. -/
theorem kept_of_filed_later {book : Book Numbered} {switches : Switches} {number : Nat}
    {turns : List Turn} {a : Numbered}
    (h : .attempt a ∈ book.filings (Turn.history switches number turns))
    (hn : a.number < number) : ∃ key, (key, a) ∈ book.stash := by
  obtain ⟨pre, post, hp⟩ := List.append_of_mem h
  rcases Book.origin hp.symm with hk | ⟨ns, note, ns', hh, ha, -⟩
  · obtain ⟨entry, he, rfl⟩ := List.mem_map.mp hk
    exact ⟨entry.1, he⟩
  · have hm : note ∈ Turn.history switches number turns := by rw [hh]; simp
    obtain ⟨k, -, hk, -⟩ := Turn.turn_of_mem_history hm ha
    omega

theorem stash_of_cleared (hs : m.recorder.stash = []) {calls : List (Call σ)}
    (h : calls.getLast? = some .clearStash) : (m.play links calls).recorder.stash = [] := by
  obtain ⟨before, rfl⟩ := List.getLast?_eq_some_iff.mp h
  have hf := (follows_watch links m (before ++ [.clearStash]) hs).describes
  rw [history_append, Book.after_append] at hf
  rw [← unwatched_watch]
  exact Stash.entries_injective hf.stash

theorem noted_of_made {m : Moment σ} (switches : Switches) (number : Nat) {call : Call σ}
    {site : Callsite} {c : Command} {response : Response}
    (h : call.turn links m = .executed site c false (.ok response) true)
    (hq : c.isQuit = false) : ∃ note ∈ (call.turn links m).notes switches number,
      note.attempt? = some ⟨number, ⟨c, response⟩⟩ := by
  have hplaced : ∃ note ∈ Turn.placement site ⟨number, ⟨c, response⟩⟩ true,
      note.attempt? = some ⟨number, ⟨c, response⟩⟩ := by
    unfold Turn.placement
    rw [hq]
    cases hw : site.insideWait with
    | false => exact ⟨_, List.mem_singleton_self _, rfl⟩
    | true =>
      cases hk : c.structuralKey with
      | ok key => exact ⟨_, List.mem_singleton_self _, rfl⟩
      | error fault =>
        -- without a key the call fails, though it was carried out
        cases call with
        | execute site c skip =>
          obtain ⟨rfl, rfl, rfl, ha, hm⟩ := Turn.executed.inj h
          rw [run_execute] at hm
          generalize (links.send c).result.run m.trail = done at ha hm
          obtain ⟨answer, trail⟩ := done
          obtain rfl := ha
          simp [run_report, run_file, hq, hw, hk, Except.map, Except.isOk, Except.toBool] at hm
        | clearStash => cases h
        | step camera site request => cases h
  obtain ⟨note, hn, ha⟩ := hplaced
  rw [h]
  exact ⟨note, List.mem_cons_of_mem _ (List.mem_append_right _ hn), ha⟩

theorem noted_of_mem_turns {m : Moment σ} (switches : Switches) (number : Nat) {k : Nat}
    {calls : List (Call σ)} {site : Callsite} {c : Command} {response : Response}
    (h : (m.turns links calls)[k]? = some (.executed site c false (.ok response) true))
    (hq : c.isQuit = false) :
    ∃ note ∈ Turn.history switches number (m.turns links calls),
      note.attempt? = some ⟨number + k, ⟨c, response⟩⟩ := by
  induction calls generalizing m number k with
  | nil => cases h
  | cons call rest ih =>
    cases k with
    | zero =>
      obtain ⟨note, hn, ha⟩ := noted_of_made links switches number (Option.some.inj h) hq
      exact ⟨note, List.mem_append_left _ hn, ha⟩
    | succ k =>
      obtain ⟨note, hn, ha⟩ := ih (number + 1) h
      rw [show number + 1 + k = number + (k + 1) by omega] at ha
      exact ⟨note, List.mem_append_right _ hn, ha⟩

theorem made_of_settled {calls : List (Call σ)} {a : Numbered}
    (ha : a ∈ settled (m.history links calls)) : ∃ site, (m.turns links calls)[a.number]? =
      some (.executed site a.attempt.command false (.ok a.attempt.response) true) := by
  have hnoted := (cut_sublist [] _).subset (List.mem_append_left _ ha)
  obtain ⟨note, hn, hna⟩ := List.mem_filterMap.mp hnoted
  obtain ⟨k, site, hk, -, hturn⟩ := Turn.turn_of_mem_history hn hna
  rw [Nat.zero_add] at hk
  exact ⟨site, hk ▸ hturn⟩

theorem fate_of_made (hs : m.recorder.stash = []) {calls : List (Call σ)} {k : Nat}
    {site : Callsite} {c : Command} {response : Response}
    (hturn : (m.turns links calls)[k]? = some (.executed site c false (.ok response) true))
    (hq : c.isQuit = false) :
    let a : Numbered := ⟨k, c, response⟩
    a ∈ settled (m.history links calls) ∨ Superseded a (m.history links calls) ∨
      ∃ key, (key, a) ∈ pending (m.history links calls) := by
  intro a
  obtain ⟨hfiled, hkept, -⟩ := settled_and_pending links m hs calls
  obtain ⟨note, hn, ha⟩ := noted_of_mem_turns links m.recorder.switches 0 hturn hq
  rw [Nat.zero_add] at ha
  rcases m.book.fate_of_attempt hn ha with hf | hsup | hk
  · exact .inl (hfiled ▸ Filing.mem_attempts.mpr hf)
  · exact .inr (.inl hsup)
  · exact .inr (.inr (hkept ▸ hk))

/-- What is handed over before a call, in it and after it, as seen from the call. -/
structure SettledAt (early : List (Call σ)) (call : Call σ) (late : List (Call σ))
    (now later : List Event) (still : List Numbered) : Prop where
  in_call : (m.watch links (early ++ [call])).events = (m.watch links early).events ++ now
  after_call : (m.watch links (early ++ call :: late)).events =
    (m.watch links early).events ++ now ++ later
  /-- A test that is closed in the call is handed over before everything else. -/
  test_first : ∀ pre test post, now = pre ++ .handed (.test test) :: post → ∀ s, .handed s ∉ pre
  reported : List.Forall₂ Numbered.ReportedAs (settled (m.history links early))
    ((m.watch links early).events.filterMap Event.command?)
  reported_later : List.Forall₂ Numbered.ReportedAs still
    ((now ++ later).filterMap Event.command?)
  whole : settled (m.history links (early ++ call :: late)) =
    settled (m.history links early) ++ still
  /-- What is reported was carried out in the call of its number. -/
  made : ∀ a ∈ settled (m.history links (early ++ call :: late)), ∃ site,
    (m.turns links (early ++ call :: late))[a.number]? =
      some (.executed site a.attempt.command false (.ok a.attempt.response) true)
  once : (settled (m.history links (early ++ call :: late))).Pairwise (·.number < ·.number)
  stash : (m.play links early).recorder.stash.entries =
    (pending (m.history links early)).map fun entry => (entry.1, entry.2.attempt)
  /-- What was made before is reported, superseded, or left in the stash. -/
  fate : ∀ k site c response,
    (m.turns links early)[k]? = some (.executed site c false (.ok response) true) →
    c.isQuit = false → let a : Numbered := ⟨k, c, response⟩
    a ∈ settled (m.history links early) ∨ Superseded a (m.history links early) ∨
      ∃ key, (key, a) ∈ pending (m.history links early)
  /-- Of this only what is left in the stash is reported from then on. -/
  left : ∀ a ∈ still, a.number < early.length →
    ∃ key, (key, a) ∈ pending (m.history links early)
  cleared : early.getLast? = some .clearStash → (m.play links early).recorder.stash = []

/-- Wherever a call closes a test, the attempts of the calls before it are settled but for
those left in the stash. -/
theorem attempts_settled_at_close (hc : links.submit.isSome = true)
    (hr : m.recorder.switches.reportsDisabled = false)
    (hd : m.recorder.switches.commandsDisabled = false) (hs : m.recorder.stash = [])
    (early late : List (Call σ)) (call : Call σ) :
    ∃ now later still, m.SettledAt links early call late now later still := by
  obtain ⟨hfiled, hkept, hstash⟩ := settled_and_pending links m hs early
  obtain ⟨hall, -, -⟩ := settled_and_pending links m hs (early ++ call :: late)
  obtain ⟨-, hterms, -⟩ := follows_watch links m early hs
  obtain ⟨-, hterms', now, hnow, hshn⟩ := follows_append links m early hs [call]
  obtain ⟨-, -, later, hlater, hshl⟩ := follows_append links m (early ++ [call]) hs late
  have ht := takesCommands_watched links m hc hr hd
  have hnumbers := settled_numbered links m (early ++ call :: late)
  rw [hterms] at hshn
  rw [hterms', hterms, history_append, Book.after_append] at hshl
  have hlen : (early ++ [call]).length =
      early.length + ((m.play links early).turns links [call]).length := by
    rw [length_turns, List.length_append]
  have hrest := hshn.append hshl
  rw [← Book.filings_append, hlen, ← Turn.history_append, play_append, ← turns_append] at hrest
  have hsplit := m.history_append links early (call :: late)
  refine ⟨now, later, _, {
    in_call := hnow
    after_call := by
      rw [← hnow, ← hlater, List.append_assoc]
      rfl
    test_first := by
      rintro pre test post rfl s
      rw [turns, turns, Turn.history, Turn.history, List.append_nil] at hshn
      exact test_handed_first hshn s
    reported := settled_reported links m hc hr hd hs early
    reported_later := hrest.commands ht
    whole := by
      rw [← hall, ← hfiled, hsplit, Book.filings_append, List.filterMap_append]
      rfl
    made := fun _ ha => made_of_settled links m ha
    once := hnumbers.sublist (List.sublist_append_left _ _)
    stash := hstash
    fate := fun _ _ _ _ hturn hq => fate_of_made links m hs hturn hq
    left := fun _ ha hn => hkept ▸ kept_of_filed_later (Filing.mem_attempts.mp ha) hn
    cleared := stash_of_cleared links m hs }⟩

def pollCommand : Command := { sessionId := .str "session-1", name := "findElement" }

def nextCommand : Command := { sessionId := .str "session-1", name := "clickElement" }

theorem settled_at_change_of_test :
    let links := ScriptedLinks.links true
    let m : Moment ScriptedLinks := ⟨{}, { outside := {} }⟩
    let early : List (Call ScriptedLinks) :=
      [.execute (.within [.inTest "test_a"]) nextCommand false,
        .execute (.within [.wait, .inTest "test_a"]) pollCommand false, .clearStash]
    let call : Call ScriptedLinks := .execute (.within [.inTest "test_b"]) nextCommand false
    links.submit.isSome = true ∧ m.recorder.switches = {} ∧ m.recorder.stash = [] ∧
      ∃ now later still, m.SettledAt links early call [] now later still := by
  intro links m early call
  exact ⟨rfl, rfl, rfl, attempts_settled_at_close links m rfl rfl rfl rfl early [] call⟩

/-- The last attempt of a wait at the end of one test is reported after that test. -/
theorem attempt_reported_after_its_test :
    let links := ScriptedLinks.links true
    let m : Moment ScriptedLinks := ⟨{}, { outside := {} }⟩
    let poll : Call ScriptedLinks := .execute (.within [.wait, .inTest "test_a"]) pollCommand false
    let next : Call ScriptedLinks := .execute (.within [.inTest "test_b"]) nextCommand false
    (m.play links [poll]).recorder.currentTest = some "test_a" ∧
      (m.watch links [poll, next]).events.filterMap Event.submission? =
        [.test { name := "test_a" }, .command pollCommand .null true .null,
          .command nextCommand .null true .null] := by
  intro links m poll next
  have hk : pollCommand.keyText?.isSome = true := by cbv
  obtain ⟨key, hk⟩ := Command.exists_structuralKey hk
  have ha : Naming.test (.within [.wait, .inTest "test_a"]) = some "test_a" :=
    @Naming.test_inTest "test_a" [.wait] (by simp)
  have hb : Naming.test (.within [.inTest "test_b"]) = some "test_b" :=
    @Naming.test_inTest "test_b" [] (by simp)
  constructor
  · rw [play, List.foldl_cons, performed_inside_wait links m rfl rfl rfl hk, ha]
    rfl
  · rw [watch, play, List.map_cons, List.map_cons, List.foldl_cons, List.foldl_cons,
      Call.watched, Call.watched, performed_inside_wait links.watched m.watched rfl rfl rfl hk, ha,
      performed_outside_wait links.watched _ rfl rfl rfl, hb]
    rfl

end Moment

end AgentReporting
