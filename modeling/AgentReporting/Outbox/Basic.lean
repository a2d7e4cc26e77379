import AgentReporting.Report
import AgentReporting.Trail

/-! # The outbox

Reports wait in a bounded queue until they are posted to the Agent. A mark among
them wakes the consumer when the outbox is stopped.
-/

namespace AgentReporting

inductive Parcel where
  /-- Enqueued to wake the consumer. -/
  | wake
  | report (route : String) (report : Report)

namespace Parcel

def report? : Parcel → Option Report
  | wake => none
  | report _ r => some r

end Parcel

/-- How reports are posted: one by one, or several in one request that may be repeated. -/
inductive Mode where
  | single
  | batch (route : String) (maxSize maxAttempts : Int)
deriving DecidableEq

namespace Mode

def defaultAttempts : Int := 4

/-- A batch holds at least one report; no number of attempts means the usual one. -/
def batchOf (route : String) (maxSize maxAttempts : Int) : Mode :=
  batch route (max 1 maxSize) (if maxAttempts = 0 then defaultAttempts else maxAttempts)

end Mode

structure Outbox where
  mode : Mode := .single
  /-- How many parcels fit; without a positive number there is no bound. -/
  capacity : Int := 1024
  parcels : List Parcel := []
  running : Bool := false
  cancelled : Bool := false
  /-- Set for good after too many failures in a row. -/
  disabled : Bool := false
  failures : Nat := 0

namespace Outbox

/-- Failures in a row after which no further report is taken. -/
def maxFailures : Nat := 4

def isFull (outbox : Outbox) : Bool :=
  0 < outbox.capacity && outbox.capacity ≤ outbox.parcels.length

def push (outbox : Outbox) (parcel : Parcel) : Outbox :=
  { outbox with parcels := outbox.parcels ++ [parcel] }

/-- Takes a report; a disabled outbox drops it. -/
def submit (outbox : Outbox) (route : String) (report : Report) : Outbox :=
  if outbox.disabled then outbox else outbox.push (.report route report)

/-- Asks the consumer to end once everything has been attempted. -/
def stop (outbox : Outbox) : Outbox :=
  { outbox with running := false }.push .wake

/-- Makes the consumer end after the parcel in flight. -/
def cancel (outbox : Outbox) : Outbox :=
  let stopped := { outbox with cancelled := true, running := false }
  if outbox.isFull then stopped else stopped.push .wake

/-- Whether the consumer goes on to the next parcel. -/
def goesOn (outbox : Outbox) : Bool :=
  (outbox.running || !outbox.parcels.isEmpty) && !outbox.cancelled

/-- The reports that still wait. -/
def waiting (outbox : Outbox) : List Report :=
  outbox.parcels.filterMap (·.report?)

/-- Counts a failure; enough of them in a row disable the outbox. -/
def recordFailure (outbox : Outbox) : Outbox :=
  { outbox with
    failures := outbox.failures + 1
    disabled := outbox.disabled || maxFailures ≤ outbox.failures + 1 }

def recordSuccess (outbox : Outbox) : Outbox :=
  { outbox with failures := 0 }

end Outbox

/-- An operation on an outbox. -/
abbrev Posting (σ : Type) := StateT Outbox (Act σ)

/-- Posts a body to a route of the Agent; the answer is a status. -/
abbrev Post (σ : Type) := (route body : String) → Attempt σ Nat

/-- Statuses of success. -/
def isSuccessStatus (status : Nat) : Bool :=
  200 ≤ status && status < 300

end AgentReporting
