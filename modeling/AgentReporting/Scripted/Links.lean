import AgentReporting.Recorder.Manual
import AgentReporting.Scripted.Script

/-! # Scripted links of a recorder

A recorder between an automation server and a client that both answer by scripts, with
a camera beside them.
-/

namespace AgentReporting

structure ScriptedLinks where
  /-- Scripts by the names of commands; other commands succeed. -/
  responses : Entries (Script (Except Fault Response)) := []
  /-- What the client answers to submissions. -/
  replies : Script Value := []
  shots : Script (Except Fault Value) := []
  sent : List Command := []
  submitted : List Submission := []
  /-- What the client answered last, if it was asked at all. -/
  lastReply : Value := .bool true

namespace ScriptedLinks

def send (c : Command) : Attempt ScriptedLinks Response := do
  Attempt.lift (Act.modifyOutside fun l => { l with sent := l.sent ++ [c] })
  let script (l : ScriptedLinks) := (Entries.get? l.responses c.name).getD []
  let next ← Attempt.lift (Script.take script fun rest l =>
    if rest.isEmpty then l else { l with responses := Entries.put l.responses c.name rest })
  let response ← Attempt.ofExcept (next.getD (.ok (Response.done c)))
  return { response with sessionId := c.sessionId }

def submit (submission : Submission) : Act ScriptedLinks Bool := do
  let next ← Script.take (·.replies) fun rest l => { l with replies := rest }
  let reply := next.getD (.bool true)
  Act.modifyOutside fun l => { l with lastReply := reply, submitted := l.submitted ++ [submission] }
  return reply.truthy

def shoot : Attempt ScriptedLinks Value := do
  let next ← Attempt.lift (Script.take (·.shots) fun rest l => { l with shots := rest })
  Attempt.ofExcept (next.getD (.ok .null))

/-- The links, with or without a client. -/
def links (client : Bool) : Links ScriptedLinks where
  send := send
  submit := if client then some submit else none

/-- The links with their notes forgotten. -/
def forgotten (l : ScriptedLinks) : ScriptedLinks :=
  { l with sent := [], submitted := [], lastReply := .bool true }

end ScriptedLinks

end AgentReporting
