import AgentReporting.Client.Basic
import AgentReporting.Console

/-! # Reports of a client

A client takes reports until it is closed, and its consumer posts them through the
channel. Closing waits for the consumer first, and closes the channel last.
-/

namespace AgentReporting.Client

variable {τ : Type}

/-- Posts through the channel of a client. -/
def post (net : Network τ) (channel : Channel) : Post τ := fun route body => do
  return (← channel.send net "POST" route Timeout.connection (some body)).status

/-- Takes a report; the answer is false when nothing is reported any more. -/
def submit (client : Client) (report : Report) : Client × Bool :=
  match client.worker with
  | none => (client, false)
  | some worker =>
    if client.closed then (client, false)
    else
      let outbox := worker.outbox.submit (Route.ofReport report) report
      ({ client with worker := some { worker with outbox } }, true)

/-- Lets the consumer do all it can. -/
def settle (net : Network τ) (client : Client) : Act τ Client := do
  match client.worker with
  | none => return client
  | some worker => return { client with worker := some (← worker.settle (post net client.channel)) }

/-- Keeps the consumer from taking parcels, or lets it go on. -/
def hold (held : Bool) (client : Client) : Client :=
  { client with worker := client.worker.map fun worker => { worker with held } }

/-- Stops the consumer and waits for it; one that does not come to its end is given up. -/
def stopWorker (net : Network τ) (client : Client) : Act τ Client := do
  let stopped := client.worker.map fun worker => { worker with outbox := worker.outbox.stop }
  let client ← settle net { client with worker := stopped }
  match client.worker with
  | none => return client
  | some worker =>
    if worker.isDone then return client
    Act.error
      "Reports queue didn't finish uploading reports in a timely manner and was terminated."
    Act.warn "Terminating reports queue forcibly..."
    return { client with worker := some { worker with outbox := worker.outbox.cancel } }

/-- The notice where the report of a session lies. -/
def reportNotice (client : Client) : String :=
  if client.localReport.truthy then
    Console.notice false "Agent" s!"Execution Report: {client.localReport.display}" true
  else ""

/-- Ends the session, once. -/
def close (net : Network τ) (closeSocket : Bool) (client : Client) : Act τ Client := do
  if client.closed then return client
  let client ← stopWorker net { client with closed := true }
  if closeSocket then net.closeSocket
  Act.info s!"Session [{client.session.id.display}] closed"
  Act.print client.reportNotice
  return { client with channel := { client.channel with isOpen := false } }

end AgentReporting.Client
