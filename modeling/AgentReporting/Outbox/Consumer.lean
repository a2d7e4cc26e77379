import AgentReporting.Outbox.Delivery

/-! # The consumer of an outbox

The consumer handles parcel after parcel while the outbox runs or holds any, unless
it is cancelled. It looks at these marks between two parcels only, so one that
waits for a parcel still handles the next one.
-/

namespace AgentReporting

namespace Outbox

variable {σ : Type}

/-- A note on what is left behind when the consumer ends. -/
def finish (outbox : Outbox) : Act σ Unit := do
  if outbox.waiting.length ≠ 0 then
    Act.warn s!"There are {outbox.waiting.length} unreported items in the queue"

/-- Handles the next parcels; a batch that could not be delivered is only logged. -/
def handleLogged (post : Post σ) : Posting σ (Except Fault Unit) := do
  match ← handle post with
  | .ok () => return .ok ()
  | .error (.kit (.failedReport message _ _)) =>
    Act.error (σ := σ) message
    return .ok ()
  | .error fault => return .error fault

/-- Handles parcels until none is left or the outbox is cancelled; `fuel` bounds their number. -/
def drain (post : Post σ) : Nat → Posting σ (Except Fault Unit)
  | 0 => do
    finish (σ := σ) (← get)
    return .ok ()
  | fuel + 1 => do
    let outbox ← get
    if outbox.goesOn && !outbox.parcels.isEmpty then
      match ← handleLogged post with
      | .ok () => drain post fuel
      | .error fault => return .error fault
    else
      finish (σ := σ) outbox
      return .ok ()

/-- Runs the consumer of an outbox to which nothing is added meanwhile. -/
def run (post : Post σ) : Posting σ (Except Fault Unit) := do
  drain post (← get).parcels.length

end Outbox

inductive Phase where
  | absent
  /-- Past the check of the marks, and waiting for a parcel. -/
  | waiting
  | ended
deriving DecidableEq

/-- An outbox with a consumer of its own. -/
structure Worker where
  outbox : Outbox := {}
  phase : Phase := .absent
  /-- Kept from taking a first parcel. -/
  held : Bool := false
  /-- The fault that ended the consumer. -/
  crash : Option Fault := none

namespace Worker

variable {σ : Type}

def isAlive (worker : Worker) : Bool := worker.phase == .waiting

/-- Whether the consumer has something to do. -/
def isReady (worker : Worker) : Bool :=
  worker.isAlive && !worker.held && !worker.outbox.parcels.isEmpty

/-- Looks at the marks, and waits or ends. -/
def check (worker : Worker) : Act σ Worker := do
  if worker.outbox.goesOn then return { worker with phase := .waiting }
  else
    worker.outbox.finish
    return { worker with phase := .ended }

/-- One turn of the consumer: the next parcels, then the marks. -/
def turn (post : Post σ) (worker : Worker) : Act σ Worker := do
  let (result, outbox) ← (Outbox.handleLogged post).run worker.outbox
  let worker := { worker with outbox }
  match result with
  | .ok () => worker.check
  | .error fault => return { worker with phase := .ended, crash := some fault }

/-- Lets the consumer take up to `fuel` turns. -/
def turns (post : Post σ) : Nat → Worker → Act σ Worker
  | 0, worker => return worker
  | fuel + 1, worker => do
    if worker.isReady then turns post fuel (← worker.turn post) else return worker

/-- Lets the consumer do all it can. -/
def settle (post : Post σ) (worker : Worker) : Act σ Worker :=
  turns post worker.outbox.parcels.length worker

/-- Starts the consumer, once. -/
def start (worker : Worker) : Act σ Worker := do
  match worker.phase with
  | .absent => check { worker with outbox := { worker.outbox with running := true } }
  | _ => return worker

/-- Whether the consumer has come to its end, or was never started. -/
def isDone (worker : Worker) : Bool := !worker.isAlive

end Worker

end AgentReporting
