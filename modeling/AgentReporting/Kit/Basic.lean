import AgentReporting.Client.Handshake
import AgentReporting.Client.Reporting
import AgentReporting.Client.Request
import AgentReporting.Driver.Basic
import AgentReporting.Shutdown

/-! # The kit

The kit holds every client and driver that was started, the client that is cached, and
what is to be done at shutdown. Clients and drivers are known by their numbers.
-/

namespace AgentReporting

/-- What is done for a driver or a client at shutdown. -/
inductive Hook where
  | stopDriver (driver : Nat)
  | closeClient (client : Nat)
deriving DecidableEq

/-- The kit in a world `τ`. -/
structure Kit (τ : Type) where
  world : τ
  clients : List Client := []
  /-- The client that is shared while its session is asked for. -/
  cached : Option Nat := none
  drivers : List Driver := []
  registry : Registry Nat Hook := {}

namespace Kit

variable {τ α : Type}

/-! ## Parts of the kit -/

/-- An operation on the world. -/
def onWorld (act : Act τ α) : Act (Kit τ) α :=
  Act.within Kit.world (fun world kit => { kit with world }) act

def attemptOnWorld (attempt : Attempt τ α) : Attempt (Kit τ) α :=
  Attempt.ofResult (onWorld attempt.result)

def modifyRegistry (f : Registry Nat Hook → Registry Nat Hook) : Act (Kit τ) Unit :=
  Act.modifyOutside fun kit => { kit with registry := f kit.registry }

def setClient (id : Nat) (client : Client) : Act (Kit τ) Unit :=
  Act.modifyOutside fun kit => { kit with clients := kit.clients.set id client }

def setDriver (id : Nat) (driver : Driver) : Act (Kit τ) Unit :=
  Act.modifyOutside fun kit => { kit with drivers := kit.drivers.set id driver }

/-- Changes a client, if there is one. -/
def updateClient (id : Nat) (f : Client → Act τ (Client × α)) : Act (Kit τ) (Option α) := do
  match (← Act.getOutside).clients[id]? with
  | none => return none
  | some client =>
    let (client, a) ← onWorld (f client)
    setClient id client
    return some a

/-! ## Clients -/

def addClient (client : Client) : Act (Kit τ) Nat := do
  let kit ← Act.getOutside
  Act.setOutside { kit with clients := kit.clients ++ [client] }
  return kit.clients.length

def closeClient (net : Network τ) (closeSocket : Bool) (id : Nat) : Act (Kit τ) Unit :=
  discard (updateClient id fun client => return (← client.close net closeSocket, ()))

/-- Hands a report to a client; the answer says whether it was taken. -/
def report (id : Nat) (report : Report) : Act (Kit τ) Bool :=
  return (← updateClient id fun client => return client.submit report).getD false

/-- Keeps the consumer of a client from taking parcels, or lets it go on. -/
def hold (held : Bool) (id : Nat) : Act (Kit τ) Unit :=
  discard (updateClient id fun client => return (client.hold held, ()))

/-- Lets the consumer of every client do all it can. -/
def settle (net : Network τ) : Act (Kit τ) Unit := do
  let ids := List.range (← Act.getOutside).clients.length
  ids.forM fun id => discard (updateClient id fun client => return (← client.settle net, ()))

/-- Asks a client for something that leaves it as it is. -/
def request (id : Nat) (f : Client → Attempt τ α) (without : α) : Attempt (Kit τ) α := do
  match (← Attempt.lift Act.getOutside).clients[id]? with
  | none => return without
  | some client => attemptOnWorld (f client)

def renameJob (net : Network τ) (id : Nat) (name : Value) : Attempt (Kit τ) Unit :=
  request id (fun client => client.renameJob net name) ()

def executeAction (net : Network τ) (id : Nat) (descriptor timeout : Value) :
    Attempt (Kit τ) Value :=
  request id (fun client => client.executeAction net descriptor timeout) .null

/-- Asks the Agent at an address, or at the configured one, for its version. -/
def agentVersion (net : Network τ) (site : Callsite) (address : Option String) :
    Attempt (Kit τ) Value := do
  let config ← Attempt.lift (Config.ofEnvironment site.env)
  let address ← Attempt.ofExcept (Address.resolve config address)
  attemptOnWorld (Client.askVersion net address)

end Kit

end AgentReporting
