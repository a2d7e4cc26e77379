import AgentReporting.Kit.Basic

/-! # The cached client

A client whose session is asked for again is shared. Any other request ends it and
starts a session; the liveness connection stays open only when the Agent can continue
under the same names.
-/

namespace AgentReporting.Kit

variable {σ τ : Type}

/-- The cached client, if it is open and holds the session that is asked for. -/
def shared? (kit : Kit τ) (caps : Capabilities) : Option (Nat × Client) := do
  let id ← kit.cached
  let client ← kit.clients[id]?
  if !client.closed && Value.same client.trackingId (Capabilities.get caps trackingKey) then
    some (id, client)
  else none

/-- The names that a request asks for, as against those that a client has. -/
def requestedSettings (site : Callsite) (client : Client) (request : ClientRequest) :
    Attempt σ (Option ReportSettings) := do
  if client.settings.isNone || request.disableReports then return request.settings
  if request.settings.any (·.isComplete) then return request.settings
  let inferred ← Naming.settings site
  return some ((request.settings.map (·.mergedWith inferred)).getD inferred)

/-- Whether the Agent can continue the session of a client for another request. -/
def canReuse (client : Client) : Attempt σ Bool :=
  Version.valueAtLeast client.version Client.reuseVersion

/-- Whether the liveness connection of a client is kept for another request. -/
def keepsSocket (site : Callsite) (client : Client) (request : ClientRequest) : Attempt σ Bool := do
  match client.settings, ← requestedSettings site client request with
  | some old, some new => if old.sameNames new then canReuse client else return false
  | _, _ => return false

/-- Ends a client because another one takes its place. -/
def retire (net : Network τ) (closeSocket : Bool) (id : Nat) : Act (Kit τ) Unit := do
  modifyRegistry (·.removeClient)
  closeClient net closeSocket id

def retireCached (net : Network τ) (site : Callsite) (request : ClientRequest) :
    Attempt (Kit τ) Unit := do
  let kit ← Attempt.lift Act.getOutside
  match kit.cached with
  | none => return ()
  | some id =>
    match kit.clients[id]? with
    | none => return ()
    | some client =>
      let keep ← keepsSocket site client request
      Attempt.lift (retire net (!keep) id)

/-- Makes a new client the cached one, whose hook is the client's. -/
def install (client : Client) : Act (Kit τ) Nat := do
  let id ← addClient client
  modifyRegistry (·.setClient (.closeClient id))
  Act.modifyOutside fun kit => { kit with cached := some id }
  return id

/-- The client for a request, shared or started, with its number. -/
def getClient (net : Network τ) (site : Callsite) (request : ClientRequest) :
    Attempt (Kit τ) (Nat × Client) := do
  let config ←
    match request.config with
    | some config => pure config
    | none => Attempt.lift (Config.ofEnvironment site.env)
  let address ← Attempt.ofExcept (Address.resolve config request.address)
  let token ← Attempt.ofExcept (config.resolveToken request.token)
  let caps ← Attempt.lift request.capabilities.track
  let kit ← Attempt.lift Act.getOutside
  match shared? kit caps with
  | some shared => return shared
  | none =>
    let request := { request with capabilities := caps }
    retireCached net site request
    let client ← attemptOnWorld (Client.start net site config address token request)
    return (← Attempt.lift (install client), client)

/-- Forgets the cached client and ends it. -/
def clear (net : Network τ) : Act (Kit τ) Unit := do
  let kit ← Act.getOutside
  Act.setOutside { kit with cached := none }
  match kit.cached with
  | none => return ()
  | some id => retire net true id

end AgentReporting.Kit
