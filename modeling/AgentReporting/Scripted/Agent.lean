import AgentReporting.Json.Reader
import AgentReporting.Network
import AgentReporting.Scripted.Script
import AgentReporting.Session
import AgentReporting.Value.Parts

/-! # A scripted Agent

An Agent that answers each route by a script, and a network that notes what is sent.
Where a script says nothing, the Agent grants what it is asked for.
-/

namespace AgentReporting

inductive ReplyBody where
  /-- What the Agent answers when nothing is wrong. -/
  | usual
  | data (v : Value)
  | text (s : String)

/-- An answer, in whose body some fields may be changed or missing. -/
structure Reply where
  status : Nat := 200
  body : ReplyBody := .usual
  patch : Entries Value := []
  drop : List String := []

namespace Reply

/-- The data of the body, unless it is given as text. -/
def data (usual : Value) (reply : Reply) : Value :=
  match reply.body with
  | .data v => (v.withFields reply.patch).without reply.drop
  | _ => (usual.withFields reply.patch).without reply.drop

/-- The answer as it is sent, which cannot hold a number that is not finite. -/
def toHttp (usual : Value) (reply : Reply) : Except Fault HttpAnswer :=
  match reply.body with
  | .text s => .ok ⟨reply.status, s⟩
  | _ =>
    let data := reply.data usual
    if data.isFinite then .ok ⟨reply.status, String.ofList (Json.text data)⟩
    else .error (.mismatch .value "Out of range float values are not JSON compliant")

end Reply

abbrev ReplyScript := Script (Except Fault Reply)

structure ScriptedAgent where
  version : Value := .str "1.2.0"
  status : ReplyScript := []
  session : ReplyScript := []
  rename : ReplyScript := []
  action : ReplyScript := []
  report : ReplyScript := []
  /-- How often a session was asked for. -/
  sessions : Nat := 0

namespace ScriptedAgent

inductive Topic where
  | status
  | session
  | rename
  | action
  | report
deriving DecidableEq

/-- What a request is about. -/
def topic (request : HttpRequest) : Topic :=
  if request.url.endsWith Route.status then .status
  else if request.url.endsWith Route.action then .action
  else if request.url.endsWith Route.session then
    if request.method = "PUT" then .rename else .session
  else .report

def capabilitiesIn (request : HttpRequest) : Value :=
  ((request.body.bind Json.read?).getD .null).get "capabilities"

/-- The usual answer to a session request. -/
def grant (agent : ScriptedAgent) (request : HttpRequest) : Value :=
  .dict [("sessionId", .str s!"session-{agent.sessions}"),
    ("serverAddress", .str "http://127.0.0.1:4444/wd/hub"), ("dialect", .str "W3C"),
    ("capabilities", (capabilitiesIn request).without [trackingKey]),
    ("version", agent.version), ("warnings", .list [])]

/-- What the Agent answers where its script says nothing else. -/
def usual (agent : ScriptedAgent) (request : HttpRequest) : Value :=
  match topic request with
  | .status => .dict [("tag", agent.version)]
  | .session => agent.grant request
  | .action =>
    .dict [("resultType", .str "Passed"), ("message", .null), ("fields", .list [])]
  | .rename => .dict []
  | .report => .dict []

/-- The script that a request is answered by, and the Agent after it. -/
def nextReply (agent : ScriptedAgent) : Topic → Option (Except Fault Reply) × ScriptedAgent
  | .status => let (reply, rest) := agent.status.next; (reply, { agent with status := rest })
  | .session =>
    let (reply, rest) := agent.session.next
    (reply, { agent with session := rest, sessions := agent.sessions + 1 })
  | .rename => let (reply, rest) := agent.rename.next; (reply, { agent with rename := rest })
  | .action => let (reply, rest) := agent.action.next; (reply, { agent with action := rest })
  | .report => let (reply, rest) := agent.report.next; (reply, { agent with report := rest })

def answer (request : HttpRequest) : StateM ScriptedAgent (Except Fault HttpAnswer) := fun agent =>
  let (reply, agent) := agent.nextReply (topic request)
  ((reply.getD (.ok {})).bind (Reply.toHttp (agent.usual request)), agent)

end ScriptedAgent

/-- A scripted automation server: the first key that ends the request tells the script. -/
abbrev ScriptedServer := Entries (Script (Except Fault Value))

namespace ScriptedServer

def answer (command : WireCommand) : StateM ScriptedServer (Except Fault Value) := fun server =>
  let target := command.method ++ " " ++ command.url
  match server.find? fun (key, _) => target.endsWith key with
  | none => (.ok (.dict [("value", .null)]), server)
  | some (key, script) =>
    let (answer, rest) := script.next
    (answer.getD (.ok (.dict [("value", .null)])), Entries.put server key rest)

end ScriptedServer

inductive SocketEvent where
  | opened (host : String) (port : Int)
  | closed

/-- A scripted world, and what was sent to it. -/
structure ScriptedWorld where
  agent : ScriptedAgent := {}
  server : ScriptedServer := []
  requests : List HttpRequest := []
  commands : List WireCommand := []
  socket : List SocketEvent := []

namespace ScriptedWorld

def http (request : HttpRequest) : StateM ScriptedWorld (Except Fault HttpAnswer) := fun world =>
  let (answer, agent) := (ScriptedAgent.answer request).run world.agent
  (answer, { world with agent, requests := world.requests ++ [request] })

def automate (command : WireCommand) : StateM ScriptedWorld (Except Fault Value) := fun world =>
  let (answer, server) := (ScriptedServer.answer command).run world.server
  (answer, { world with server, commands := world.commands ++ [command] })

def noteSocket (event : SocketEvent) : Act ScriptedWorld Unit :=
  Act.modifyOutside fun world => { world with socket := world.socket ++ [event] }

/-- The network to a scripted world, whose liveness connection never fails. -/
def network : Network ScriptedWorld where
  http := http
  automate := automate
  openSocket host port := Attempt.lift (noteSocket (.opened host port))
  closeSocket := noteSocket .closed

/-- The world with its notes forgotten. -/
def forgotten (world : ScriptedWorld) : ScriptedWorld :=
  { world with requests := [], commands := [], socket := [] }

end ScriptedWorld

end AgentReporting
