import AgentReporting.Address
import AgentReporting.Client.Status
import AgentReporting.Naming
import AgentReporting.Value.Coercion
import AgentReporting.Version

/-! # Starting a session

A client asks the Agent for a session and reads what it answers. Whatever goes wrong
ends the handshake, and what the Agent refuses is told in the words of the kit.
-/

namespace AgentReporting.Client

variable {σ τ : Type}

/-! ## The request -/

def nameText (name : Option String) : String := (Value.ofText? name).display

/-- The names a session is started under: those given, completed at the call site. -/
def completeSettings (site : Callsite) (given : Option ReportSettings) :
    Attempt σ ReportSettings := do
  match given.filter (·.isComplete) with
  | some settings => return settings
  | none =>
    let inferred ← Naming.settings site
    Attempt.info (s!"Inferred [{nameText inferred.project}] and [{nameText inferred.job}] " ++
      "for Project and Job names accordingly.")
    let settings := (given.map (·.mergedWith inferred)).getD inferred
    Attempt.info (s!"Using [{nameText settings.project}] and [{nameText settings.job}] " ++
      "for Project and Job names accordingly.")
    return settings

def optionalName (key : String) (name : Option String) : Entries Value :=
  ((Config.nonEmpty? name).map fun text => (key, Value.str text)).toList

def settingsFields (settings : ReportSettings) : Entries Value :=
  [("projectName", Value.ofText? settings.project), ("jobName", Value.ofText? settings.job),
    ("reportType", .str settings.type.name)] ++
    optionalName "reportName" settings.name ++ optionalName "reportPath" settings.path

/-- The language that the kit is for. -/
def language : String := "Python"

def sessionRequest (site : Callsite) (caps : Capabilities) (settings : Option ReportSettings) :
    Value :=
  .dict ([("capabilities", .dict caps),
    ("sdkVersion", Value.ofText? (Config.kitVersion site.installed site.env)),
    ("language", .str language)] ++ (settings.map settingsFields).getD [])

/-! ## The version -/

def obsoleteAgent (version : Value) : Fault :=
  let message := s!"Target Agent version [{version.display}] doesn't support Generic driver. " ++
    "Upgrade the Agent to the latest version and try again."
  .kit (.obsoleteVersion (some message) version)

/-- Refuses an Agent that does not know sessions for any platform, where one is asked for. -/
def checkVersion (net : Network τ) (site : Callsite) (address : String) (caps : Capabilities) :
    Attempt τ Unit := do
  if !Capabilities.isAnyPlatform caps then return ()
  let config ← Attempt.lift (Config.ofEnvironment site.env)
  let address ← Attempt.ofExcept (Address.resolve config (some address))
  let version ← askVersion net address
  if !(← Version.valueAtLeast version anyPlatformVersion) then throw (obsoleteAgent version)

/-! ## A refusal -/

/-- The Agent's own words in an answer. -/
def messageIn (answer : HttpAnswer) : Option String :=
  match answer.body?.bind (·.field? "message") with
  | some .null => none
  | message => message.map (·.display)

def deviceName (caps : Capabilities) : Value :=
  let udid := Capabilities.get caps "udid"
  if udid.truthy then udid else Capabilities.get caps "appium:udid"

/-- What the Agent could not find: a device has no browser, and the Agent says something. -/
def missing (message : Option String) (caps : Capabilities) : Missing :=
  if message.isSome && !(Capabilities.get caps browserKey).truthy then .device else .browser

def missingName (target : Missing) (caps : Capabilities) : Value :=
  match target with
  | .device => deviceName caps
  | .browser => Capabilities.get caps browserKey

def missingNote : Missing → String
  | .device => "Requested device is not connected"
  | .browser => "requested browser is not installed"

/-- The fault that a refusal means, with the end of its line in the log. -/
def refusal (answer : HttpAnswer) (caps : Capabilities) : String × Fault :=
  let message := messageIn answer
  if answer.status = 401 then
    (" - token is invalid", .kit (.invalidToken KitFault.tokenMessage))
  else if answer.status = 406 then
    (" - obsolete SDK version", .kit (.obsoleteVersion message .null))
  else if answer.status = 404 then
    let target := missing message caps
    (" - " ++ missingNote target, .connect (.missing target (missingName target caps)))
  else ("", .connect (.refused answer.status message))

/-- A failed request, as the user is told about it. -/
def explain (address : String) (fault : Fault) : Fault :=
  match fault with
  | .transfer kind _ =>
    if kind.isTimeout then .connect .interrupted
    else if kind = .connect then .connect .unreachable
    else .connect (.communication address)
  | fault => fault

/-- Asks for a session; the answer is one of success. -/
def requestSession (net : Network τ) (channel : Channel) (caps : Capabilities) (body : String) :
    Attempt τ HttpAnswer := do
  let sent := channel.send net "POST" Route.session Timeout.session (some body)
  let answer ← Attempt.ofResult (return (← sent.result).mapError (explain channel.address))
  if answer.isSuccess then return answer
  let (note, fault) := refusal answer caps
  Attempt.error ("Failed to initialize a session with the Agent" ++ note)
  throw fault

/-! ## The answer -/

/-- The dialect in an answer. -/
def dialectOf (value : Value) : Except Fault (Option Dialect) :=
  (Dialect.ofValue value).mapError fun fault =>
    if fault.isValueFault then .connect (.unknownDialect value) else fault

/-- The fields of an answer, which must be a dictionary. -/
def answerFields (answer : HttpAnswer) : Attempt τ Value :=
  match answer.body? with
  | none => unreadable answer "Failed to parse Agent response: " .unreadableAnswer
  | some data => if data.isDict then return data else throw (.noAttribute data "get")

/-- The session in an answer; the tracking id is the one that was asked for. -/
def sessionIn (caps : Capabilities) (data : Value) : Attempt τ Session := do
  let granted ← Attempt.ofExcept (data.get "capabilities").asEntries
  let dialect ← Attempt.ofExcept (dialectOf (data.get "dialect"))
  let given := data.get "sessionId"
  let id ← if given.truthy then pure given else Value.str <$> Attempt.lift Act.freshId
  return {
    address := if Capabilities.isAnyPlatform caps then .null else data.get "serverAddress"
    id, dialect
    capabilities := Entries.put granted trackingKey (Capabilities.get caps trackingKey) }

def showWarnings (warnings : Value) : Attempt τ Unit := do
  if !warnings.truthy then return ()
  let items ← Attempt.ofExcept warnings.iterated
  items.forM fun warning => Attempt.warn warning.display

/-- The host in the address of the Agent. -/
def hostOf (address : String) : String :=
  match Url.ofString address with
  | .ok url => url.host
  | .error _ => ""

/-- Opens the liveness connection that the Agent asks for. -/
def openSocket (net : Network τ) (address : String) (port : Value) : Attempt τ Unit := do
  if !port.truthy then return ()
  net.openSocket (hostOf address) (← Attempt.ofExcept port.wholeNumber)

/-! ## The handshake -/

/-- Starts a session with settled names. -/
def startSession (net : Network τ) (site : Callsite) (channel : Channel) (config : Config)
    (caps : Capabilities) (settings : Option ReportSettings) : Attempt τ Client := do
  Attempt.info "Initializing new session..."
  checkVersion net site channel.address caps
  let some body := Json.encode? (sessionRequest site caps settings) | throw Fault.foreignKey
  let data ← answerFields (← requestSession net channel caps body)
  let session ← sessionIn caps data
  Attempt.info s!"Session [{session.id.display}] initialized"
  showWarnings (data.get "warnings")
  openSocket net channel.address (data.get "devSocketPort")
  return {
    channel, config, settings, session, version := data.get "version"
    localReport := data.get "localReport" }

/-- Whether a token can be sent as a header. -/
def isHeaderText (token : String) : Bool :=
  token.toList.all fun c => c.toNat < 0x80

def foreignToken : Fault :=
  .mismatch .encoding "the token has characters outside ASCII"

/-- The outbox of a new session. -/
def outbox (config : Config) (batch : Bool) : Outbox :=
  { mode := if batch then Mode.batchOf Route.batchReport config.maxBatchSize 0 else .single }

/-- Starts a session, and the consumer of its outbox unless nothing is reported. -/
def start (net : Network τ) (site : Callsite) (config : Config) (address token : String)
    (request : ClientRequest) : Attempt τ Client := do
  if !isHeaderText token then throw foreignToken
  let settings ←
    if request.disableReports then pure none
    else some <$> completeSettings site request.settings
  let client ← startSession net site { address, token } config request.capabilities settings
  if request.disableReports then return client
  let worker ← Attempt.lift (Worker.start { outbox := outbox config request.batchReports })
  return { client with worker := some worker }

end AgentReporting.Client
