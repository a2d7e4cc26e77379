import AgentReporting.Decimal.Reading
import AgentReporting.Trail

/-! # Configuration

Settings that come from the environment of the process. An empty variable counts
as missing, and a batch size that is no positive number is logged and replaced.
-/

namespace AgentReporting

/-- Environment variables. -/
abbrev Environment := Entries String

def defaultAgentUrl : String := "http://localhost:8585"

def defaultBatchSize : Int := 10

structure Config where
  agentUrl : String := defaultAgentUrl
  token : Option String := none
  maxBatchSize : Int := defaultBatchSize
  disableAutoReports : Bool := false
deriving DecidableEq

namespace Config

variable {σ : Type}

def nonEmpty? (value : Option String) : Option String :=
  value.filter fun s => !s.isEmpty

/-- Words that switch an option on, in any case and between blanks. -/
def isOn (value : Option String) : Bool :=
  let word := Decimal.lowerAscii (Text.trimBy Text.isBlank (value.getD "").toList)
  ["1", "true", "yes", "on"].contains word

def batchSize (raw : Option String) : Act σ Int := do
  let some text := nonEmpty? raw | return defaultBatchSize
  match (Decimal.int? text).filter (0 < ·) with
  | some size => return size
  | none =>
    Act.info (s!"Failed to parse TP_MAX_REPORTS_BATCH_SIZE={Text.quoted text}. " ++
      s!"Maximum reports batch size is set to the default value: {defaultBatchSize}.")
    return defaultBatchSize

def ofEnvironment (env : Environment) : Act σ Config := do
  let size ← batchSize (Entries.get? env "TP_MAX_REPORTS_BATCH_SIZE")
  return {
    agentUrl := (nonEmpty? (Entries.get? env "TP_AGENT_URL")).getD defaultAgentUrl
    token := nonEmpty? (Entries.get? env "TP_DEV_TOKEN")
    maxBatchSize := size
    disableAutoReports := isOn (Entries.get? env "TP_DISABLE_AUTO_REPORTS") }

/-- The version sent to the Agent: that of the installed package, or else a debug version. -/
def kitVersion (installed : Option String) (env : Environment) : Option String :=
  installed.orElse fun _ => Entries.get? env "TP_DEBUG_SDK_VERSION"

/-- The token given, or else the configured one. -/
def resolveToken (config : Config) (token : Option String) : Except Fault String :=
  match (nonEmpty? token).orElse fun _ => nonEmpty? config.token with
  | some token => .ok token
  | none => .error (.kit (.invalidToken "No token has been provided."))

end Config

end AgentReporting
