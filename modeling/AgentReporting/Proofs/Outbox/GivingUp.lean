import AgentReporting.Proofs.Outbox.Shift
import Mathlib.Data.List.Infix

/-! # Giving up

An outbox that posts one by one is disabled by failures in a row. Its count of failures is
the length of the last run of them, and its mark tells whether a run was ever long enough.
What happens between two posts is no matter, nor what is posted after the mark was set.
-/

namespace AgentReporting

variable {σ τ : Type}

/-- Whether a post failed. A fault that breaks off the consumer tells nothing. -/
def failed? : Except Fault Nat → Option Bool
  | .ok status => some !isSuccessStatus status
  | .error fault => if fault.isTransfer || fault.isValueFault then some true else none

/-! ## Runs of failures -/

theorem replicate_suffix_concat_iff {α : Type} {a : α} {k : ℕ} {l : List α} :
    List.replicate (k + 1) a <:+ l ++ [a] ↔ List.replicate k a <:+ l := by
  rw [List.replicate_succ', List.suffix_concat_iff]
  constructor
  · rintro (hn | ⟨t, ht, hs⟩)
    · simp at hn
    · rwa [(List.append_singleton_inj.mp ht).1]
  · exact fun h => .inr ⟨_, rfl, h⟩

theorem replicate_suffix_concat_of_ne {α : Type} {a b : α} (hb : b ≠ a) {k : ℕ} {l : List α} :
    List.replicate k a <:+ l ++ [b] ↔ k = 0 := by
  constructor
  · intro h
    by_contra hk
    obtain ⟨n, rfl⟩ := Nat.exists_eq_succ_of_ne_zero hk
    rw [List.replicate_succ', List.suffix_concat_iff] at h
    rcases h with hn | ⟨t, ht, -⟩
    · simp at hn
    · exact hb (List.append_singleton_inj.mp ht).2.symm
  · rintro rfl
    exact List.nil_suffix

namespace Outbox

structure Counts (outbox : Outbox) (failed : List Bool) : Prop where
  streak : ∀ k, List.replicate k true <:+ failed ↔ k ≤ outbox.failures
  disabled : outbox.disabled = true ↔ List.replicate maxFailures true <:+: failed

variable {outbox : Outbox} {failed : List Bool}

theorem Counts.failure (h : outbox.Counts failed) :
    outbox.recordFailure.Counts (failed ++ [true]) := by
  have hs : ∀ k, List.replicate k true <:+ failed ++ [true] ↔ k ≤ outbox.failures + 1 := by
    intro k
    cases k with
    | zero => simp
    | succ k => rw [replicate_suffix_concat_iff, h.streak, Nat.add_le_add_iff_right]
  refine ⟨hs, ?_⟩
  rw [List.infix_concat_iff, hs, ← h.disabled, recordFailure, Bool.or_eq_true, decide_eq_true_iff]
  exact Or.comm

theorem Counts.success (h : outbox.Counts failed) :
    outbox.recordSuccess.Counts (failed ++ [false]) := by
  have hs : ∀ k, List.replicate k true <:+ failed ++ [false] ↔ k ≤ 0 := fun k => by
    rw [replicate_suffix_concat_of_ne Bool.false_ne_true, Nat.le_zero]
  refine ⟨hs, ?_⟩
  rw [List.infix_concat_iff, hs, ← h.disabled]
  simp [recordSuccess, maxFailures]

theorem Counts.count (h : outbox.Counts failed) (outcome : Except Fault Nat) :
    (outbox.count outcome).Counts (failed ++ (failed? outcome).toList) := by
  cases outcome with
  | ok status =>
    rw [Outbox.count, failed?]
    cases isSuccessStatus status with
    | true => exact h.success
    | false => exact h.failure
  | error fault =>
    cases ht : fault.isTransfer || fault.isValueFault with
    | true =>
      simp only [Outbox.count, failed?, tolerated, ht, if_true]
      exact h.failure
    | false =>
      simp only [Outbox.count, failed?, tolerated, ht, Bool.false_eq_true, if_false,
        Option.toList_none, List.append_nil]
      exact h

theorem Counts.of_same {other : Outbox} (h : outbox.Counts failed)
    (hf : other.failures = outbox.failures) (hd : other.disabled = outbox.disabled) :
    other.Counts failed :=
  ⟨fun k => hf ▸ h.streak k, hd ▸ h.disabled⟩

theorem Counts.answer (h : outbox.Counts failed) (question : Ask) :
    (outbox.answer question).Counts failed := by
  rw [answer_eq]
  cases question with
  | _ => exact h.of_same rfl rfl

end Outbox

/-! ## What is handled -/

namespace Desk

/-- Between two desks a post was made and counted, if any was. -/
structure Counted (before : Desk (Noted τ)) (delivery? : Option Delivery)
    (after : Desk (Noted τ)) : Prop where
  posts : after.posts = before.posts ++ delivery?.toList
  outbox : after.outbox = delivery?.elim before.outbox (before.outbox.count ·.outcome)

variable (recipient : Recipient τ) (desk : Desk (Noted τ))

theorem run_deliver_counted (parcel : Parcel) : ∃ delivery?,
    desk.Counted delivery? (desk.run (Outbox.deliver recipient.post parcel)).2 ∧
      delivery?.map Delivery.sent = parcel.item?.bind written? := by
  rcases run_deliver_eq recipient.post desk parcel with
    ⟨hn, -, houtbox, houtside⟩ | ⟨route, body, hw, -, houtbox, houtside⟩
  · exact ⟨none, ⟨(congrArg Noted.posts houtside).trans (List.append_nil _).symm, houtbox⟩, hn.symm⟩
  · obtain ⟨outcome, -, ho, hp, -⟩ := run_post recipient desk.trail route body
    refine ⟨some ⟨route, body, outcome⟩, ⟨?_, ?_⟩, hw.symm⟩
    · exact (congrArg Noted.posts houtside).trans hp
    · exact houtbox.trans (congrArg desk.outbox.count ho)

theorem run_handle_counted {parcel : Parcel} {rest : List Parcel}
    (hm : desk.outbox.mode = .single) (hp : desk.outbox.parcels = parcel :: rest) : ∃ delivery?,
    Counted { desk with outbox := { desk.outbox with parcels := rest } } delivery?
        (desk.run (Outbox.handleLogged recipient.post)).2 ∧
      delivery?.map Delivery.sent = parcel.item?.bind written? := by
  obtain ⟨delivery?, hc, hs⟩ := run_deliver_counted recipient
    { desk with outbox := { desk.outbox with parcels := rest } } parcel
  obtain ⟨-, houtbox, houtside⟩ := run_handleLogged_single recipient.post desk hm hp
  exact ⟨delivery?, ⟨(congrArg Noted.posts houtside).trans hc.posts, houtbox.trans hc.outbox⟩, hs⟩

theorem run_handle_nil (post : Post σ) (desk : Desk σ) (h : desk.outbox.parcels = []) :
    (desk.run (Outbox.handleLogged post)).2 = desk := by
  rw [Outbox.handleLogged, run_bind, Outbox.handle, run_bind, run_get]
  simp only [h]
  rfl

end Desk

/-! ## Every interleaving -/

/-- What happens to an outbox. Between two parcels that are handled anything may come. -/
inductive Beat where
  | start
  | ask (question : Ask)
  /-- The consumer handles what is next, if there is something. -/
  | handle

namespace Desk

def opening (capacity : Int) (world : τ) : Desk (Noted τ) :=
  ⟨{ capacity }, { outside := { world } }⟩

def beat (post : Post σ) (desk : Desk σ) : Beat → Desk σ
  | .start => { desk with outbox := { desk.outbox with running := true } }
  | .ask question => { desk with outbox := desk.outbox.answer question }
  | .handle => (desk.run (Outbox.handleLogged post)).2

def beats (post : Post σ) (desk : Desk σ) (list : List Beat) : Desk σ := list.foldl (beat post) desk

def failed (desk : Desk (Noted τ)) : List Bool := desk.posts.filterMap (failed? ·.outcome)

/-- What holds of an outbox that posts one by one, whatever happens. -/
structure Tallied (desk : Desk (Noted τ)) : Prop where
  single : desk.outbox.mode = .single
  counts : desk.outbox.Counts desk.failed

variable (recipient : Recipient τ) {desk : Desk (Noted τ)}

theorem Tallied.opening (capacity : Int) (world : τ) : (opening capacity world).Tallied := by
  refine ⟨rfl, fun k => ?_, ?_⟩
  · simp [Desk.opening, failed, posts]
  · simp [Desk.opening, failed, posts, Outbox.maxFailures]

theorem Counted.tallied {delivery? : Option Delivery} {before after : Desk (Noted τ)}
    (h : before.Counted delivery? after) (ht : before.Tallied) : after.Tallied := by
  have hfailed : after.failed = before.failed ++ (delivery?.bind (failed? ·.outcome)).toList := by
    rw [failed, h.posts, List.filterMap_append]
    cases delivery? with
    | none => rfl
    | some delivery => cases hf : failed? delivery.outcome <;> simp [failed, hf]
  obtain ⟨hs, hc⟩ := ht
  refine ⟨?_, ?_⟩
  · rw [h.outbox]
    cases delivery? with
    | none => exact hs
    | some delivery =>
      obtain ⟨failures, disabled, ho⟩ := before.outbox.count_same delivery.outcome
      rw [Option.elim_some, ho]
      exact hs
  · rw [h.outbox, hfailed]
    cases delivery? with
    | none => simpa using hc
    | some delivery => exact hc.count delivery.outcome

theorem Tallied.beat (h : desk.Tallied) (b : Beat) :
    (desk.beat recipient.post b).Tallied ∧ desk.posts <+: (desk.beat recipient.post b).posts := by
  cases b with
  | start => exact ⟨⟨h.single, h.counts.of_same rfl rfl⟩, List.prefix_rfl⟩
  | ask question =>
    exact ⟨⟨(desk.outbox.mode_answer question).trans h.single, h.counts.answer question⟩,
      List.prefix_rfl⟩
  | handle =>
    rw [Desk.beat]
    cases hp : desk.outbox.parcels with
    | nil =>
      rw [run_handle_nil recipient.post desk hp]
      exact ⟨h, List.prefix_rfl⟩
    | cons parcel rest =>
      obtain ⟨delivery?, hc, -⟩ := run_handle_counted recipient desk h.single hp
      exact ⟨hc.tallied ⟨h.single, h.counts.of_same rfl rfl⟩, _, hc.posts.symm⟩

theorem Tallied.beats (h : desk.Tallied) (list : List Beat) :
    (desk.beats recipient.post list).Tallied ∧
      desk.posts <+: (desk.beats recipient.post list).posts := by
  induction list generalizing desk with
  | nil => exact ⟨h, List.prefix_rfl⟩
  | cons b rest ih =>
    obtain ⟨hb, hp⟩ := h.beat recipient b
    obtain ⟨hr, hp'⟩ := ih hb
    exact ⟨hr, hp.trans hp'⟩

/-- How an outbox stands after some beats. -/
structure GivesUp (recipient : Recipient τ) (desk : Desk (Noted τ)) : Prop where
  /-- An outbox is disabled if enough posts in a row have failed, and only then. -/
  disabled_iff : desk.outbox.disabled = true ↔
    List.replicate Outbox.maxFailures true <:+: desk.failed
  for_good : desk.outbox.disabled = true → ∀ later : List Beat,
    (desk.beats recipient.post later).outbox.disabled = true
  /-- A disabled outbox is left as it is by a submission. -/
  refuses : desk.outbox.disabled = true → ∀ route report,
    desk.outbox.answer (.submit route report) = desk.outbox
  /-- Any other outbox takes a report where it has room. -/
  takes : desk.outbox.disabled = false → desk.outbox.isFull = false → ∀ route report,
    desk.outbox.answer (.submit route report) = desk.outbox.push (.report route report)
  /-- A report that had to wait for room enters, disabled or not. -/
  lets_in : desk.outbox.isFull = false → ∀ route report,
    desk.outbox.answer (.enter (.report route report)) = desk.outbox.push (.report route report)
  /-- One post is made for each report that is handled; marks and reports that cannot be written
  count as neither success nor failure. -/
  posts : ∀ parcel rest, desk.outbox.parcels = parcel :: rest →
    ∃ delivery? : Option Delivery,
      (desk.beat recipient.post .handle).posts = desk.posts ++ delivery?.toList ∧
        delivery?.map Delivery.sent = parcel.item?.bind written?

/-- However requests come between the parcels that are handled, an outbox gives up at the
first run of failures that is long enough, and not before. -/
theorem gives_up (capacity : Int) (world : τ) (list : List Beat) :
    GivesUp recipient ((opening capacity world).beats recipient.post list) := by
  obtain ⟨ht, -⟩ := (Tallied.opening capacity world).beats recipient list
  generalize (Desk.opening capacity world).beats recipient.post list = desk at ht
  constructor
  case disabled_iff => exact ht.counts.disabled
  case for_good =>
    intro hd later
    obtain ⟨hl, hp⟩ := ht.beats recipient later
    exact hl.counts.disabled.mpr
      ((ht.counts.disabled.mp hd).trans (hp.filterMap _).isInfix)
  case refuses =>
    intro hd route report
    simp [Outbox.answer, Outbox.submit, hd]
  case takes =>
    intro hd hf route report
    simp [Outbox.answer, Outbox.submit, hd, hf]
  case lets_in =>
    intro hf route report
    simp [Outbox.answer, hf]
  case posts =>
    intro parcel rest hp
    obtain ⟨delivery?, hc, hs⟩ := run_handle_counted recipient desk ht.single hp
    exact ⟨delivery?, hc.posts, hs⟩

end Desk

end AgentReporting
