import AgentReporting.Proofs.Outbox.Shift
import Mathlib.Data.List.Induction

/-! # Reports are posted in order

However the moves of producers and consumer follow each other, reports are taken in the
order in which they were enqueued, and each is posted once on its own route or dropped.
A consumer that ends has taken all of them, unless it was cancelled.
-/

namespace AgentReporting.Shift

variable {τ : Type}

inductive Step (recipient : Recipient τ) (shift : Shift (Noted τ)) :
    Move → Shift (Noted τ) → Prop where
  | ask (question : Ask) :
      Step recipient shift (.ask question)
        { shift with
          desk := { shift.desk with outbox := shift.desk.outbox.answer question }
          enqueued := shift.enqueued ++ shift.desk.outbox.accepted question }
  | start (h : shift.stage = .absent) :
      Step recipient shift .start
        { shift with
          desk := { shift.desk with outbox := { shift.desk.outbox with running := true } }
          stage := .looking }
  | serve (h : shift.stage = .absent) : Step recipient shift .serve { shift with stage := .looking }
  | wait (h : shift.stage = .looking) (hg : shift.desk.outbox.goesOn = true) :
      Step recipient shift .look { shift with stage := .waiting }
  | finish (h : shift.stage = .looking) (hg : shift.desk.outbox.goesOn = false) {desk}
      (hd : shift.desk.Delivers [] desk) (ho : desk.outbox = shift.desk.outbox) :
      Step recipient shift .look { shift with desk, stage := .ended }
  | take (h : shift.stage = .waiting) {parcel rest deliveries desk stage}
      (hp : shift.desk.outbox.parcels = parcel :: rest)
      (hd : Desk.Delivers { shift.desk with outbox := { shift.desk.outbox with parcels := rest } }
        deliveries desk)
      (hs : deliveries.map Delivery.sent = (parcel.item?.bind written?).toList)
      (hb : stage = .looking ∨
        ∃ fault, stage = .crashed fault ∧ Desk.Breaks recipient deliveries fault) :
      Step recipient shift .take
        { shift with desk, stage, taken := shift.taken ++ parcel.item?.toList }
  | idle {m : Move} (h : ∀ question, m ≠ .ask question) : Step recipient shift m shift

variable (recipient : Recipient τ) {shift next : Shift (Noted τ)} {m : Move} {list : List Move}

theorem step_look (h : shift.stage = .looking) : Step recipient shift .look shift.look := by
  unfold look
  cases hg : shift.desk.outbox.goesOn with
  | true => exact .wait h hg
  | false =>
    refine .finish h hg (.none rfl ?_) rfl
    simp only [Desk.posts, Desk.run_liftM, Outbox.finish]
    split <;> rfl

theorem step_take (hm : shift.desk.outbox.mode = .single) (h : shift.stage = .waiting) :
    Step recipient shift .take (shift.take recipient.post) := by
  unfold Shift.take
  cases hp : shift.desk.outbox.parcels with
  | nil => exact .idle (fun _ => Move.noConfusion)
  | cons parcel rest =>
    obtain ⟨deliveries, hd, hs, hb⟩ := Desk.run_take recipient shift.desk hm hp
    generalize shift.desk.run (Outbox.handleLogged recipient.post) = done at hd hb
    obtain ⟨answer, desk⟩ := done
    refine .take h hp hd hs ?_
    cases answer with
    | ok => exact .inl rfl
    | error fault => exact .inr ⟨fault, rfl, hb fault rfl⟩

theorem step_move (hm : shift.desk.outbox.mode = .single) (m : Move) :
    Step recipient shift m (shift.move recipient.post m) := by
  cases m with
  | ask question => exact .ask question
  | start =>
    simp only [move]
    split
    · exact .start ‹_›
    · exact .idle fun _ => Move.noConfusion
  | serve =>
    simp only [move]
    split
    · exact .serve ‹_›
    · exact .idle fun _ => Move.noConfusion
  | look =>
    simp only [move]
    split
    · exact step_look recipient ‹_›
    · exact .idle fun _ => Move.noConfusion
  | take =>
    simp only [move]
    split
    · exact step_take recipient hm ‹_›
    · exact .idle fun _ => Move.noConfusion

/-! ## The order of reports -/

variable {recipient}

/-- What holds at every point of a shift. -/
structure Sound (recipient : Recipient τ) (shift : Shift (Noted τ)) : Prop where
  single : shift.desk.outbox.mode = .single
  posted : shift.posts.map Delivery.sent = shift.taken.filterMap written?
  in_order : shift.taken ++ shift.desk.outbox.items = shift.enqueued
  crashed : ∀ fault, shift.stage = .crashed fault → Desk.Breaks recipient shift.posts fault

theorem Sound.opening (capacity : Int) (world : τ) : Sound recipient (opening capacity world) :=
  ⟨rfl, rfl, rfl, fun _ h => nomatch h⟩

theorem Sound.step (hs : Sound recipient shift) (h : Step recipient shift m next) :
    Sound recipient next := by
  cases h with
  | ask question =>
    refine ⟨?_, hs.posted, ?_, hs.crashed⟩
    · rw [Outbox.mode_answer, hs.single]
    · rw [Outbox.items_answer, ← List.append_assoc, hs.in_order]
  | start => exact ⟨hs.single, hs.posted, hs.in_order, fun _ h => nomatch h⟩
  | serve => exact ⟨hs.single, hs.posted, hs.in_order, fun _ h => nomatch h⟩
  | wait => exact ⟨hs.single, hs.posted, hs.in_order, fun _ h => nomatch h⟩
  | finish h hg hd ho =>
    have hp := hd.posts.trans (List.append_nil _)
    refine ⟨?_, ?_, ?_, fun _ h => nomatch h⟩
    · exact ho ▸ hs.single
    · rw [← hs.posted, Shift.posts, hp, Shift.posts]
    · exact ho ▸ hs.in_order
  | @take _ parcel rest deliveries desk stage hp hd hsent hb =>
    obtain ⟨failures, disabled, ho⟩ := hd.outbox
    have hposts : desk.posts = shift.posts ++ deliveries := hd.posts
    refine ⟨?_, ?_, ?_, ?_⟩
    · exact ho ▸ hs.single
    · rw [Shift.posts, hposts, List.map_append, hs.posted, hsent, List.filterMap_append]
      cases he : parcel.item? with
      | none => rfl
      | some item => cases hw : written? item <;> simp [hw]
    · rw [← hs.in_order, Outbox.items, Outbox.items, ho, hp, List.append_assoc]
      cases he : parcel.item? <;> simp [he]
    · intro fault hf
      rcases hb with hl | ⟨cause, hc, delivery, hmem, hbreak⟩
      · rw [hl] at hf
        cases hf
      · rw [hc] at hf
        cases hf
        refine ⟨delivery, ?_, hbreak⟩
        rw [Shift.posts, hposts]
        exact List.mem_append_right _ hmem
  | idle => exact hs

theorem Sound.moves (hs : Sound recipient shift) (list : List Move) :
    Sound recipient (shift.moves recipient.post list) := by
  induction list generalizing shift with
  | nil => exact hs
  | cons m rest ih => exact ih (hs.step (step_move recipient hs.single m))

/-! ## The marks -/

/-- The mark of a cancelled outbox comes from a request to cancel. -/
theorem Step.cancelled (h : Step recipient shift m next) :
    next.desk.outbox.cancelled = true ↔
      shift.desk.outbox.cancelled = true ∨ m = .ask .cancel := by
  cases h with
  | ask question => simp [Outbox.cancelled_answer]
  | start => simp
  | serve => simp
  | wait => simp
  | finish h hg hd ho => simp [ho]
  | take h hp hd =>
    obtain ⟨failures, disabled, ho⟩ := hd.outbox
    simp [ho]
  | idle h => simp [h .cancel]

theorem cancelled_moves (hs : Sound recipient shift) (list : List Move) :
    (shift.moves recipient.post list).desk.outbox.cancelled = true ↔
      shift.desk.outbox.cancelled = true ∨ .ask .cancel ∈ list := by
  induction list generalizing shift with
  | nil => simp
  | cons m rest ih =>
    have h := step_move recipient hs.single m
    rw [moves_cons, ih (hs.step h), h.cancelled, List.mem_cons, or_assoc, @eq_comm _ m]

theorem Step.running (h : Step recipient shift m next) (hs : m ≠ .ask .stop) (hc : m ≠ .ask .cancel)
    (hr : shift.desk.outbox.running = true) : next.desk.outbox.running = true := by
  cases h with
  | ask question =>
    have hs' : question ≠ .stop := fun h => hs (by rw [h])
    have hc' : question ≠ .cancel := fun h => hc (by rw [h])
    simpa only [Outbox.running_answer _ _ hs' hc'] using hr
  | start => rfl
  | serve => exact hr
  | wait => exact hr
  | finish h hg hd ho => simpa only [ho] using hr
  | take h hp hd =>
    obtain ⟨failures, disabled, ho⟩ := hd.outbox
    simpa only [ho] using hr
  | idle => exact hr

theorem running_moves (hs : Sound recipient shift) (hn : .ask .stop ∉ list)
    (hc : .ask .cancel ∉ list)
    (hr : shift.desk.outbox.running = true) :
    (shift.moves recipient.post list).desk.outbox.running = true := by
  induction list generalizing shift with
  | nil => exact hr
  | cons m rest ih =>
    simp only [List.mem_cons, not_or] at hn hc
    have h := step_move recipient hs.single m
    exact ih (hs.step h) hn.2 hc.2 (h.running (Ne.symm hn.1) (Ne.symm hc.1) hr)

/-! ## The end of the consumer -/

theorem Step.ended (h : Step recipient shift m next) (he : next.stage = .ended) :
    next.taken = shift.taken ∧ (shift.stage = .ended ∨
      m = .look ∧ shift.stage = .looking ∧ shift.desk.outbox.goesOn = false) := by
  cases h with
  | ask => exact ⟨rfl, .inl he⟩
  | start => cases he
  | serve => cases he
  | wait => cases he
  | finish h hg => exact ⟨rfl, .inr ⟨rfl, h, hg⟩⟩
  | take h hp hd hsent hb =>
    rcases hb with rfl | ⟨fault, rfl, -⟩
    · cases he
    · cases he
  | idle => exact ⟨rfl, .inl he⟩

/-- A consumer ends at a look at the marks, and takes nothing afterwards. -/
theorem exists_last_look (hs : Sound recipient shift) (h : shift.stage ≠ .ended)
    (he : (shift.moves recipient.post list).stage = .ended) :
    ∃ before later, list = before ++ .look :: later ∧
      (shift.moves recipient.post before).stage = .looking ∧
      (shift.moves recipient.post before).desk.outbox.goesOn = false ∧
      (shift.moves recipient.post list).taken = (shift.moves recipient.post before).taken := by
  induction list using List.reverseRecOn with
  | nil => exact absurd he h
  | append_singleton earlier m ih =>
    have hstep := step_move recipient (hs.moves earlier).single m
    rw [moves_append] at he ⊢
    obtain ⟨ht, hended | ⟨rfl, hl, hg⟩⟩ := hstep.ended he
    · obtain ⟨before, later, rfl, hl, hg, htaken⟩ := ih hended
      refine ⟨before, later ++ [m], ?_, hl, hg, ht.trans htaken⟩
      rw [List.append_assoc, List.cons_append]
    · exact ⟨earlier, [], rfl, hl, hg, ht⟩

/-! ## After a request to cancel -/

theorem Step.silent (h : Step recipient shift m next) (hc : shift.desk.outbox.cancelled = true)
    (hw : shift.stage ≠ .waiting) : next.posts = shift.posts ∧ next.stage ≠ .waiting := by
  cases h with
  | ask => exact ⟨rfl, hw⟩
  | start => exact ⟨rfl, Stage.noConfusion⟩
  | serve => exact ⟨rfl, Stage.noConfusion⟩
  | wait h hg => simp [Outbox.goesOn, hc] at hg
  | finish h hg hd => exact ⟨hd.posts.trans (List.append_nil _), Stage.noConfusion⟩
  | take h => exact absurd h hw
  | idle => exact ⟨rfl, hw⟩

theorem posts_moves_of_cancelled (hs : Sound recipient shift)
    (hc : shift.desk.outbox.cancelled = true)
    (hw : shift.stage ≠ .waiting) (list : List Move) :
    (shift.moves recipient.post list).posts = shift.posts := by
  induction list generalizing shift with
  | nil => rfl
  | cons m rest ih =>
    have h := step_move recipient hs.single m
    obtain ⟨hp, hw⟩ := h.silent hc hw
    rw [moves_cons, ih (hs.step h) (h.cancelled.mpr (.inl hc)) hw, hp]

/-- A consumer that waits for a parcel still posts one, at most. -/
theorem Step.last_post (h : Step recipient shift m next) :
    next.posts = shift.posts ∨
      next.stage ≠ .waiting ∧ ∃ delivery, next.posts = shift.posts ++ [delivery] := by
  cases h with
  | ask => exact .inl rfl
  | start => exact .inl rfl
  | serve => exact .inl rfl
  | wait => exact .inl rfl
  | finish h hg hd => exact .inl (hd.posts.trans (List.append_nil _))
  | @take _ parcel rest deliveries desk stage hp hd hsent hb =>
    have hposts : desk.posts = shift.posts ++ deliveries := hd.posts
    have hlen : deliveries.length ≤ 1 := by
      rw [← List.length_map Delivery.sent, hsent, Option.length_toList]
      split <;> omega
    have hw : stage ≠ .waiting := by
      rcases hb with rfl | ⟨fault, rfl, -⟩
      · exact Stage.noConfusion
      · exact Stage.noConfusion
    cases deliveries with
    | nil => exact .inl (hposts.trans (List.append_nil _))
    | cons delivery more =>
      cases List.length_eq_zero_iff.mp (by simpa using hlen : more.length = 0)
      exact .inr ⟨hw, delivery, hposts⟩
  | idle => exact .inl rfl

theorem posts_moves_of_waiting (hs : Sound recipient shift)
    (hc : shift.desk.outbox.cancelled = true)
    (list : List Move) : ∃ deliveries : List Delivery, deliveries.length ≤ 1 ∧
      (shift.moves recipient.post list).posts = shift.posts ++ deliveries := by
  induction list generalizing shift with
  | nil => exact ⟨[], Nat.zero_le 1, (List.append_nil _).symm⟩
  | cons m rest ih =>
    have h := step_move recipient hs.single m
    have hc' := h.cancelled.mpr (.inl hc)
    rcases h.last_post with hp | ⟨hw, delivery, hp⟩
    · rw [moves_cons, ← hp]
      exact ih (hs.step h) hc'
    · refine ⟨[delivery], Nat.le_refl 1, ?_⟩
      rw [moves_cons, posts_moves_of_cancelled (hs.step h) hc' hw, hp]

/-! ## Every interleaving -/

/-- What holds of a shift after a list of moves. -/
structure Orderly (recipient : Recipient τ) (shift : Shift (Noted τ)) (list : List Move) :
    Prop where
  /-- Each report that was taken was posted once, or could not be written. -/
  posted : (shift.moves recipient.post list).posts.map Delivery.sent =
    (shift.moves recipient.post list).taken.filterMap written?
  /-- Reports are taken in the order in which they were enqueued; none is lost or doubled. -/
  in_order : (shift.moves recipient.post list).taken ++
      (shift.moves recipient.post list).desk.outbox.items =
    (shift.moves recipient.post list).enqueued
  /-- A consumer ends at a look at the marks. If it was not cancelled before, it has then taken
  all that was enqueued so far; and if it was started, it was stopped. -/
  drained : (shift.moves recipient.post list).stage = .ended →
    ∃ before later, list = before ++ .look :: later ∧
      (shift.moves recipient.post before).stage = .looking ∧
      (shift.moves recipient.post (before ++ [.look])).stage = .ended ∧ (.ask .cancel ∉ before →
      (shift.moves recipient.post list).taken = (shift.moves recipient.post before).enqueued ∧
      ∀ early late, before = early ++ .start :: late →
        (shift.moves recipient.post early).stage = .absent → .ask .stop ∈ late)
  /-- Nothing is posted after a request to cancel, unless the consumer was at a parcel. -/
  silenced : ∀ before later, list = before ++ .ask .cancel :: later →
    ∃ deliveries : List Delivery, deliveries.length ≤ 1 ∧
      (shift.moves recipient.post list).posts =
        (shift.moves recipient.post before).posts ++ deliveries ∧
      ((shift.moves recipient.post before).stage ≠ .waiting → deliveries = [])
  /-- Only a fault of a post that is neither of transfer nor of a value breaks off the consumer. -/
  crashed : ∀ fault, (shift.moves recipient.post list).stage = .crashed fault →
    Desk.Breaks recipient (shift.moves recipient.post list).posts fault

theorem stop_of_not_running (hs : Sound recipient shift) {early late : List Move}
    (ha : (shift.moves recipient.post early).stage = .absent) (hc : .ask .cancel ∉ late)
    (hr : (shift.moves recipient.post (early ++ .start :: late)).desk.outbox.running = false) :
    .ask .stop ∈ late := by
  by_contra hn
  rw [moves_append, moves_cons] at hr
  have h := step_move recipient (hs.moves early).single .start
  have hstart : ((shift.moves recipient.post early).move recipient.post .start).desk.outbox.running
      = true := by
    simp only [move, ha]
  rw [running_moves ((hs.moves early).step h) hn hc hstart] at hr
  cases hr

/-- Moves in any order keep the order of reports. -/
theorem moves_orderly (recipient : Recipient τ) (capacity : Int) (world : τ) (list : List Move) :
    Orderly recipient (opening capacity world) list := by
  have hs : Sound recipient (opening capacity world) := .opening capacity world
  have hlist := hs.moves list
  refine ⟨hlist.posted, hlist.in_order, ?_, ?_, hlist.crashed⟩
  · intro he
    obtain ⟨before, later, rfl, hl, hg, ht⟩ := exists_last_look hs Stage.noConfusion he
    have hended : (opening capacity world |>.moves recipient.post (before ++ [.look])).stage =
        .ended := by
      rw [moves_append, moves_cons, moves_nil]
      simp only [move, hl, look, hg, Bool.false_eq_true, if_false]
    refine ⟨before, later, rfl, hl, hended, fun hc => ?_⟩
    have hmark := (cancelled_moves hs before).not.mpr (by simp [hc, opening])
    simp only [Outbox.goesOn, hmark, Bool.not_false, Bool.and_true, Bool.or_eq_false_iff,
      Bool.not_eq_false', List.isEmpty_iff] at hg
    constructor
    · rw [ht, ← (hs.moves before).in_order, Outbox.items, hg.2]
      exact (List.append_nil _).symm
    · rintro early late rfl ha
      have hlate : .ask .cancel ∉ late := fun h => hc (by simp [h])
      exact stop_of_not_running hs ha hlate hg.1
  · rintro before later rfl
    have hb := hs.moves before
    have h := step_move recipient hb.single (.ask .cancel)
    have hc := h.cancelled.mpr (.inr rfl)
    rw [moves_append, moves_cons]
    by_cases hw : (opening capacity world |>.moves recipient.post before).stage = .waiting
    · obtain ⟨deliveries, hlen, hp⟩ := posts_moves_of_waiting (hb.step h) hc later
      exact ⟨deliveries, hlen, hp, fun hn => absurd hw hn⟩
    · refine ⟨[], Nat.zero_le 1, ?_, fun _ => rfl⟩
      rw [List.append_nil, posts_moves_of_cancelled (hb.step h) hc hw]
      rfl

end AgentReporting.Shift
