import AgentReporting.Addon.Action
import AgentReporting.Trail

/-! # Running addon actions

An action is described to the Agent and its outputs are copied back one by one,
so an output that does not fit leaves the ones before it assigned.
-/

namespace AgentReporting.Addon

variable {σ : Type}

/-- How an action reaches the Agent. -/
structure Runner (σ : Type) where
  /-- Reports what was stashed before the action. -/
  flush : Act σ Unit
  /-- Sends a descriptor with a time limit. -/
  request : (descriptor timeout : Value) → Attempt σ Value

/-- Whether a value can be looked up among names. -/
def checkHashable (name : Value) : Except Fault Unit :=
  match name with
  | .list _ => .error (.mismatch .type "unhashable type: 'list'")
  | .dict _ | .paired _ _ => .error (.mismatch .type "unhashable type: 'dict'")
  | _ => .ok ()

/-- Assigns one entry of the answer, if it is a declared output. -/
def applyResult (action : Action) (result : Result) : Except Fault Action :=
  if !result.isOutput then .ok action
  else do
    checkHashable result.name
    match result.name with
    | .str name =>
      if action.outputs.contains name then
        let value ← convert (action.typeOf name) result.value
        return action.assign name value
      else return action
    | _ => return action

/-- Assigns the entries in order, up to the first that does not fit. -/
def applyResults (action : Action) : List Result → Action × Except Fault Unit
  | [] => (action, .ok ())
  | result :: results =>
    match applyResult action result with
    | .ok action => applyResults action results
    | .error fault => (action, .error fault)

def failure (answer : Answer) : Fault :=
  let message := s!"Failed to execute action proxy: {answer.message.display}"
  .kit (.addonExecution message answer.resultType)

/-- Asks the Agent to run the action. -/
def request (runner : Runner σ) (action : Action) (locator : Option (Value × Value))
    (timeout : Value) : Attempt σ Answer := do
  let descriptor ← Attempt.ofExcept (action.descriptor locator)
  Attempt.lift runner.flush
  let answer ← Attempt.ofExcept (Answer.ofValue (← runner.request descriptor timeout))
  if answer.passed then return answer else throw (failure answer)

/-- Runs an action; it is given back also when it failed. -/
def execute (runner : Runner σ) (action : Action) (locator : Option (Value × Value))
    (timeout : Value) : Act σ (Action × Except Fault Unit) := do
  match ← (request runner action locator timeout).result with
  | .ok answer => return applyResults action answer.results
  | .error fault => return (action, .error fault)

end AgentReporting.Addon
