/-! # Test periods

The name of the running test is observed at every command and step. A period ends
when another name is observed, or when its end is forced.
-/

namespace AgentReporting.TestPeriod

def isNamed : Option String → Bool
  | some name => !name.isEmpty
  | none => false

/-- The period after a name was observed, and the one that ended by it, if any. An absent
name ends a period only when the end is forced. -/
def observe (force : Bool) (name current : Option String) : Option String × Option String :=
  let current := current.orElse fun _ => name
  if name.isNone && !(force && isNamed current) then (current, none)
  else if name = current && !force then (current, none)
  else (name, current)

end AgentReporting.TestPeriod
