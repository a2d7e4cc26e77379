import AgentReporting.Proofs.Outbox.Posting

/-! # Shifts

A shift is an outbox with its consumer, in any order of their moves. Reports and marks
may come between any two moves of the consumer, so a list of moves is one interleaving.
What was enqueued and what was taken is kept beside, as a history of the shift.
-/

namespace AgentReporting

variable {σ τ : Type}

/-- What is asked of an outbox from outside its consumer. -/
inductive Ask where
  | submit (route : String) (report : Report)
  /-- An earlier call, which had to wait for room, enqueues its parcel. -/
  | enter (parcel : Parcel)
  | stop
  | cancel

inductive Move where
  /-- The outbox is started, with a consumer of its own. -/
  | start
  /-- The caller itself turns consumer. -/
  | serve
  | ask (question : Ask)
  /-- The consumer looks at the marks. -/
  | look
  /-- The consumer takes a parcel and delivers it. -/
  | take

/-- How far the consumer has come. -/
inductive Stage where
  | absent
  | looking
  | waiting
  | ended
  | crashed (fault : Fault)

namespace Stage

def phase : Stage → Phase
  | absent => .absent
  | looking => .waiting
  | waiting => .waiting
  | ended => .ended
  | crashed _ => .ended

def crash : Stage → Option Fault
  | crashed fault => some fault
  | _ => none

def after : Except Fault Unit → Stage
  | .ok () => looking
  | .error fault => crashed fault

end Stage

namespace Outbox

def items (outbox : Outbox) : List (String × Report) := outbox.parcels.filterMap (·.item?)

/-- An outbox after a request; what finds no room waits, to enter later. -/
def answer (outbox : Outbox) : Ask → Outbox
  | .submit route report => if outbox.isFull then outbox else outbox.submit route report
  | .enter parcel => if outbox.isFull then outbox else outbox.push parcel
  | .stop => if outbox.isFull then { outbox with running := false } else outbox.stop
  | .cancel => outbox.cancel

def incoming (outbox : Outbox) : Ask → Option Parcel
  | .submit route report =>
    if outbox.isFull || outbox.disabled then none else some (.report route report)
  | .enter parcel => if outbox.isFull then none else some parcel
  | .stop => if outbox.isFull then none else some .wake
  | .cancel => if outbox.isFull then none else some .wake

def marked (outbox : Outbox) : Ask → Outbox
  | .submit _ _ => outbox
  | .enter _ => outbox
  | .stop => { outbox with running := false }
  | .cancel => { outbox with cancelled := true, running := false }

variable (outbox : Outbox) (question : Ask)

theorem answer_eq : outbox.answer question =
    { outbox.marked question with
      parcels := outbox.parcels ++ (outbox.incoming question).toList } := by
  have none_pushed (base : Outbox) : base = { base with parcels := base.parcels ++ [] } := by
    rw [List.append_nil]
  by_cases hf : outbox.isFull
  · cases question <;> simp only [answer, incoming, marked, cancel, hf, if_true, Bool.true_or]
    case submit => exact none_pushed _
    case enter => exact none_pushed _
    case stop => exact none_pushed _
    case cancel => exact none_pushed _
  cases question with
  | submit route report =>
    by_cases hd : outbox.disabled
    · have hi : outbox.incoming (.submit route report) = none := by simp [incoming, hd]
      rw [hi, answer, if_neg hf, submit, if_pos hd]
      exact none_pushed outbox
    · simp [answer, incoming, marked, submit, push, hf, hd]
  | enter parcel => simp [answer, incoming, marked, push, hf]
  | stop => simp [answer, incoming, marked, stop, push, hf]
  | cancel => simp [answer, incoming, marked, cancel, push, hf]

def accepted : List (String × Report) := ((outbox.incoming question).bind (·.item?)).toList

theorem items_answer :
    (outbox.answer question).items = outbox.items ++ outbox.accepted question := by
  rw [answer_eq, items, List.filterMap_append, accepted]
  cases outbox.incoming question with
  | none => rfl
  | some parcel => cases h : parcel.item? <;> simp [h, items]

@[simp] theorem mode_answer : (outbox.answer question).mode = outbox.mode := by
  rw [answer_eq]
  cases question <;> rfl

theorem cancelled_answer :
    (outbox.answer question).cancelled = true ↔ outbox.cancelled = true ∨ question = .cancel := by
  rw [answer_eq]
  cases question <;> simp [marked]

theorem running_answer (hs : question ≠ .stop) (hc : question ≠ .cancel) :
    (outbox.answer question).running = outbox.running := by
  rw [answer_eq]
  cases question <;> first | rfl | contradiction

end Outbox

/-- An outbox at work; the last two fields tell the reports that were enqueued and taken. -/
structure Shift (σ : Type) where
  desk : Desk σ
  stage : Stage := .absent
  enqueued : List (String × Report) := []
  taken : List (String × Report) := []

namespace Shift

def opening (capacity : Int) (world : τ) : Shift (Noted τ) :=
  { desk := ⟨{ capacity }, { outside := { world } }⟩ }

def posts (shift : Shift (Noted τ)) : List Delivery := shift.desk.posts

/-- The consumer looks at the marks, and goes on or ends. -/
def look (shift : Shift σ) : Shift σ :=
  if shift.desk.outbox.goesOn then { shift with stage := .waiting }
  else
    { shift with
      desk := (shift.desk.run (liftM (Outbox.finish (σ := σ) shift.desk.outbox))).2
      stage := .ended }

/-- The consumer takes what is next; with nothing in the outbox it goes on waiting. -/
def take (post : Post σ) (shift : Shift σ) : Shift σ :=
  match shift.desk.outbox.parcels with
  | [] => shift
  | parcel :: _ =>
    let (answer, desk) := shift.desk.run (Outbox.handleLogged post)
    { shift with desk, stage := .after answer, taken := shift.taken ++ parcel.item?.toList }

/-- One move; a move that is not possible at this stage changes nothing. -/
def move (post : Post σ) (shift : Shift σ) : Move → Shift σ
  | .start =>
    match shift.stage with
    | .absent =>
      let outbox := { shift.desk.outbox with running := true }
      { shift with desk := { shift.desk with outbox }, stage := .looking }
    | _ => shift
  | .serve =>
    match shift.stage with
    | .absent => { shift with stage := .looking }
    | _ => shift
  | .ask question =>
    let outbox := shift.desk.outbox.answer question
    { shift with
      desk := { shift.desk with outbox }
      enqueued := shift.enqueued ++ shift.desk.outbox.accepted question }
  | .look =>
    match shift.stage with
    | .looking => shift.look
    | _ => shift
  | .take =>
    match shift.stage with
    | .waiting => shift.take post
    | _ => shift

def moves (post : Post σ) (shift : Shift σ) (list : List Move) : Shift σ :=
  list.foldl (move post) shift

variable (post : Post σ) (shift : Shift σ)

@[simp] theorem moves_nil : shift.moves post [] = shift := rfl

@[simp] theorem moves_cons (m : Move) (rest : List Move) :
    shift.moves post (m :: rest) = (shift.move post m).moves post rest := rfl

@[simp] theorem moves_append (xs ys : List Move) :
    shift.moves post (xs ++ ys) = (shift.moves post xs).moves post ys :=
  List.foldl_append

/-! ## The worker of a shift -/

def worker (shift : Shift σ) (held : Bool) : Worker :=
  { outbox := shift.desk.outbox, phase := shift.stage.phase, held, crash := shift.stage.crash }

variable {shift} {held : Bool}

theorem worker_check (desk : Desk σ) (phase : Phase) (enqueued taken : List (String × Report)) :
    (Worker.check { outbox := desk.outbox, phase, held }).run desk.trail =
      let looked := look ⟨desk, .looking, enqueued, taken⟩
      (looked.worker held, looked.desk.trail) := by
  unfold Worker.check look
  by_cases hg : desk.outbox.goesOn
  · simp only [hg, if_true]
    rfl
  · simp only [hg, Bool.false_eq_true, if_false]
    rfl

/-- A worker is started by a start and a look at the marks. -/
theorem worker_start (h : shift.stage = .absent) :
    (shift.worker held).start.run shift.desk.trail =
      let started := (shift.move post .start).move post .look
      (started.worker held, started.desk.trail) := by
  simp only [Worker.start, worker, move, h, Stage.phase, Stage.crash]
  exact worker_check { shift.desk with outbox := { shift.desk.outbox with running := true } } _ _ _

theorem worker_turn (h : shift.stage = .waiting) (hp : shift.desk.outbox.parcels ≠ []) :
    ((shift.worker held).turn post).run shift.desk.trail =
      let done := (shift.move post .take).move post .look
      (done.worker held, done.desk.trail) := by
  obtain ⟨parcel, rest, hp⟩ := List.exists_cons_of_ne_nil hp
  have hw : ((shift.worker held).turn post).run shift.desk.trail =
      let done := shift.desk.run (Outbox.handleLogged post)
      (match done.1 with
        | .ok () => Worker.check { outbox := done.2.outbox, phase := .waiting, held }
        | .error fault => pure ⟨done.2.outbox, .ended, held, some fault⟩ :
        Act σ Worker).run done.2.trail := by
    simp only [worker, h]
    rfl
  rw [hw]
  simp only [move, h, take, hp]
  generalize shift.desk.run (Outbox.handleLogged post) = done
  cases done.1 with
  | ok => exact worker_check done.2 _ _ _
  | error fault => rfl

end Shift

end AgentReporting
