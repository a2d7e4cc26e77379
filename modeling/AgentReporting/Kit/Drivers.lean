import AgentReporting.Addon.Execution
import AgentReporting.Driver.Action
import AgentReporting.Driver.Answer
import AgentReporting.Kit.Cache
import AgentReporting.Recorder.Manual

/-! # Drivers of the kit

A driver starts or joins a session of the Agent and is registered for shutdown. Its
commands are recorded. Stopping it reports what is stashed before it quits.
-/

namespace AgentReporting.Kit

variable {τ α : Type}

/-! ## Recorders -/

/-- What the recorder of a driver is linked to. -/
def links (net : Network τ) (driver : Driver) : Links (Kit τ) where
  send c :=
    if driver.kind = .generic then return Response.done c
    else attemptOnWorld (driver.connection.send net c)
  submit := some fun submission => report driver.client submission.report

/-- Runs an operation on the recorder of a driver, if there is one. -/
def record (id : Nat) (f : Driver → Recording (Kit τ) α) : Act (Kit τ) (Option α) := do
  match (← Act.getOutside).drivers[id]? with
  | none => return none
  | some driver =>
    let (a, recorder) ← (f driver).run driver.recorder
    Act.modifyOutside fun kit =>
      { kit with drivers := kit.drivers.modify id fun driver => { driver with recorder } }
    return some a

/-- An operation on a recorder that may fail; without a driver it gives `without`. -/
def attemptRecord (id : Nat) (without : α) (f : Driver → Recording (Kit τ) (Except Fault α)) :
    Attempt (Kit τ) α :=
  Attempt.ofResult (return (← record id f).getD (.ok without))

def flush (net : Network τ) (id : Nat) : Act (Kit τ) Unit :=
  discard (record id fun driver => Recorder.clearStash (links net driver))

/-! ## Commands -/

/-- Carries a command of a driver out, as its library does. -/
def command (net : Network τ) (site : Callsite) (id : Nat) (name : String) (params : Value) :
    Attempt (Kit τ) Value :=
  attemptRecord id .null fun driver => do
    let raw ← Connection.record (links net driver) site name (driver.withSession params)
    return raw.bind (RawAnswer.completed driver.sessionId)

/-- Has a driver do what it offers. -/
def perform (net : Network τ) (site : Callsite) (id : Nat) (action : DriverAction) :
    Attempt (Kit τ) Value := do
  match (← Attempt.lift Act.getOutside).drivers[id]? with
  | none => return .null
  | some driver =>
    if !action.isOffered driver.kind then throw DriverAction.notOffered
    let (name, params) := action.request
    return action.result (← command net site id name params)

/-- The screen of a driver, taken without a report; null when the server refuses. -/
def screenshot (net : Network τ) (driver : Driver) : Attempt (Kit τ) Value := do
  let response ← (links net driver).send (driver.bareCommand Command.screenshot)
  return if response.isPassed then response.value else .null

/-- What takes screenshots for reports; a generic driver has nothing to show. -/
def camera (net : Network τ) (driver : Driver) : Option (Attempt (Kit τ) Value) :=
  if driver.kind = .generic then none else some (screenshot net driver)

/-- How a driver runs addon actions. -/
def addons (net : Network τ) (id : Nat) (client : Nat) : Addon.Runner (Kit τ) where
  flush := flush net id
  request := executeAction net client

/-! ## Stopping -/

/-- Quits the session of a driver. -/
def quitSession (net : Network τ) (site : Callsite) (id : Nat) : Attempt (Kit τ) Unit := do
  match (← Attempt.lift Act.getOutside).drivers[id]? with
  | none => return ()
  | some driver =>
    if driver.kind = .generic then
      attemptRecord id () fun driver => do
        let c := driver.bareCommand Command.quit
        return (← Recorder.execute (links net driver) site c false).map fun _ => ()
    else discard (command net site id Command.quit .null)

/-- Reports what is stashed, then quits. -/
def stop (net : Network τ) (site : Callsite) (id : Nat) : Attempt (Kit τ) Unit := do
  Attempt.lift (flush net id)
  quitSession net site id

/-- Stops a driver, which needs no hook any more. -/
def quit (net : Network τ) (site : Callsite) (id : Nat) : Attempt (Kit τ) Unit := do
  Attempt.lift (modifyRegistry (·.removeDriver id))
  stop net site id

def runHook (net : Network τ) (site : Callsite) : Hook → Attempt (Kit τ) Unit
  | .stopDriver id => stop net site id
  | .closeClient id => Attempt.lift (closeClient net true id)

/-- Stops every driver that is still registered, then ends the client. -/
def shutdownAll (net : Network τ) (site : Callsite) : Act (Kit τ) Unit :=
  Registry.shutdownAll Kit.registry (fun registry kit => { kit with registry }) (runHook net site)

/-! ## Starting -/

/-- A fault that a driver meets when it adopts a session. -/
def attachFault (fault : Fault) : Fault :=
  if fault.isKit then fault
  else .automation s!"Failed to attach driver to the Agent session: {fault.shown}"

/-- The driver that adopts the session for its capabilities. -/
def adopting (net : Network τ) (site : Callsite) (driver : Driver) (caps : Capabilities) :
    Attempt (Kit τ) Driver := do
  let found := getClient net site { driver.request with capabilities := caps }
  let (_, client) ← Attempt.ofResult (return (← found.result).mapError attachFault)
  return driver.adopt client

/-- Has a driver adopt the session for other capabilities. -/
def startSession (net : Network τ) (site : Callsite) (id : Nat) (caps : Capabilities) :
    Attempt (Kit τ) Unit := do
  match (← Attempt.lift Act.getOutside).drivers[id]? with
  | none => return ()
  | some driver => Attempt.lift (setDriver id (← adopting net site driver caps))

/-- Adds a driver, which is stopped at shutdown. -/
def addDriver (driver : Driver) : Act (Kit τ) Nat := do
  let kit ← Act.getOutside
  let id := kit.drivers.length
  Act.setOutside {
    kit with
    drivers := kit.drivers ++ [driver], registry := kit.registry.addDriver id (.stopDriver id) }
  return id

/-- The address of the automation server, which a session must have. -/
def serverAddress (client : Client) : Except Fault String :=
  match client.session.address with
  | .str address =>
    if address.isEmpty then .error noServer else .ok address
  | v => .error (if v.truthy then .noAttribute v "startswith" else noServer)
where
  noServer : Fault :=
    .automation "Agent did not provide an automation server address for this session"

/-- Starts a driver of a browser or a device. -/
def startAutomation (net : Network τ) (site : Callsite) (kind : DriverKind)
    (caps : Capabilities) (request : ClientRequest) : Attempt (Kit τ) Nat := do
  let (client, joined) ← getClient net site { request with capabilities := caps }
  if joined.session.dialect = some .oss then
    Attempt.warn "Legacy (OSS) protocol dialect is not supported by Selenium 4, using W3C instead"
  let address ← Attempt.ofExcept (serverAddress joined)
  let recorder := Driver.recorderFor request joined
  let driver ← adopting net site { kind, request, client, address, recorder } caps
  Attempt.lift (addDriver driver)

/-- Starts a driver that has reports only. -/
def startGeneric (net : Network τ) (site : Callsite) (caps : Capabilities)
    (request : ClientRequest) : Attempt (Kit τ) Nat := do
  let (client, joined) ← getClient net site { request with capabilities := caps }
  let recorder := Driver.recorderFor request joined
  let driver : Driver := { kind := .generic, request, client, recorder }
  Attempt.lift (addDriver (driver.adopt joined))

/-- Starts a driver with the given options, or else with those of its kind. -/
def startDriver (net : Network τ) (site : Callsite) (kind : DriverKind)
    (options : Option Capabilities) (request : ClientRequest) : Attempt (Kit τ) Nat := do
  let caps ← Attempt.ofExcept ((options.map .ok).getD kind.defaults)
  let caps ← Attempt.lift caps.track
  if kind = .generic then startGeneric net site caps request
  else startAutomation net site kind caps request

end AgentReporting.Kit
