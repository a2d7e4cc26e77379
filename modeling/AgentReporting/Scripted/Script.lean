import AgentReporting.Trail

/-! # Scripts

A script holds the answers of a collaborator that stands in for a real one. They are
given in order, and the last one for ever.
-/

namespace AgentReporting

abbrev Script (α : Type) := List α

namespace Script

variable {α σ : Type}

/-- The next answer, and the script after it. -/
def next : Script α → Option α × Script α
  | [] => (none, [])
  | [a] => (some a, [a])
  | a :: rest => (some a, rest)

/-- Takes the next answer of a script that is found by `view`. -/
def take (view : σ → Script α) (store : Script α → σ → σ) : Act σ (Option α) := do
  let (answer, rest) := next (view (← Act.getOutside))
  Act.modifyOutside (store rest)
  return answer

end Script

end AgentReporting
