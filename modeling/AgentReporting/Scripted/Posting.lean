import AgentReporting.Outbox.Consumer
import AgentReporting.Scripted.Script

/-! # A scripted receiver of reports

The receiver answers each request by a script, and success where the script is empty.
-/

namespace AgentReporting

structure ScriptedReceiver where
  statuses : Script (Except Fault Nat) := []
  /-- Routes and bodies of what was posted. -/
  posts : List (String × String) := []

namespace ScriptedReceiver

def post : Post ScriptedReceiver := fun route body => do
  Attempt.lift (Act.modifyOutside fun r => { r with posts := r.posts ++ [(route, body)] })
  let next ← Attempt.lift (Script.take (·.statuses) fun rest r => { r with statuses := rest })
  Attempt.ofExcept (next.getD (.ok 200))

end ScriptedReceiver

end AgentReporting
