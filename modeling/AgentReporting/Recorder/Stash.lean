import AgentReporting.Response

/-! # Stashed attempts

Copies of the attempts made inside a polling wait are kept until the wait is over, one for
each structural key. A later attempt replaces the earlier one and goes to the end.
-/

namespace AgentReporting

/-- A command that was carried out, with its outcome. -/
structure Attempted where
  command : Command
  response : Response

/-- Why an attempt cannot be copied, if it cannot. -/
def Attempted.copyFault? (a : Attempted) : Option Fault :=
  a.command.copyFault?.orElse fun _ => a.response.value.copyFault?

/-- An attempt that was copied, and so can be copied again. -/
structure Copy extends Attempted where
  copied : toAttempted.copyFault? = none

def Attempted.copy? (a : Attempted) : Option Copy :=
  if h : a.copyFault? = none then some ⟨a, h⟩ else none

/-- Copies of attempts by structural key, the oldest first. -/
abbrev Stash := Entries Copy

namespace Stash

/-- Puts a copy of an attempt at the end. What was stashed under its key is dropped first, also
where the attempt cannot be copied. -/
def put (stash : Stash) (key : String) (attempt : Attempted) : Stash :=
  Entries.erase stash key ++ attempt.copy?.toList.map fun copy => (key, copy)

/-- The attempts by structural key. -/
def entries (stash : Stash) : Entries Attempted :=
  stash.map fun entry => (entry.1, entry.2.toAttempted)

/-- The attempts in the order in which they are reported. -/
def attempts (stash : Stash) : List Attempted :=
  stash.map (·.2.toAttempted)

end Stash

end AgentReporting
