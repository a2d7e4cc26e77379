import AgentReporting.Command
import AgentReporting.Json.Reader

/-! # Responses

The automation server answers a command with a raw dictionary. A missing or zero
status means success; otherwise the value tells the error, as a dictionary or as
JSON text that holds one.
-/

namespace AgentReporting

structure Response where
  sessionId : Value
  state : String
  status : Value := .null
  value : Value := .null
  raw : Value := .null

namespace Response

def success : String := "success"

/-- Whether a status stands for success where it is given as such. -/
def isZero (status : Value) : Bool :=
  Value.same status (.int 0)

def isNull : Value → Bool
  | .null => true
  | _ => false

def isPassed (r : Response) : Bool :=
  r.state == success || isZero r.status

/-- The inner value of an error body that is sent as text. -/
def unwrap (value : Value) : Value :=
  match value with
  | .str text =>
    match (Json.read? text).bind (·.field? "value") with
    | some (.dict fields) => .dict fields
    | _ => value
  | v => v

/-- The state that an error body names. -/
def errorState (value : Value) : String :=
  match value.field? "error" with
  | some error => error.display
  | none => "error"

/-- Reads a raw dictionary. -/
def ofFields (sessionId : Value) (fields : Entries Value) : Response :=
  let raw := Value.dict fields
  let status := raw.get "status"
  let value := raw.get "value"
  if fields.isEmpty then ⟨sessionId, success, .int 0, .null, raw⟩
  else if isNull status || isZero status then ⟨sessionId, success, .int 0, value, raw⟩
  else
    let value := unwrap value
    ⟨sessionId, errorState value, status, value, raw⟩

/-- Reads a raw answer; nothing at all means success. -/
def ofRaw (sessionId raw : Value) : Except Fault Response :=
  match raw with
  | .dict fields => .ok (ofFields sessionId fields)
  | .paired _ fields => .ok { ofFields sessionId fields with raw }
  | raw =>
    if raw.truthy then .error (.noAttribute raw "get")
    else .ok ⟨sessionId, success, .int 0, .null, raw⟩

/-- What a report says about the outcome: the message of an error, or else the value. -/
def result (r : Response) : Value :=
  match r.value with
  | .exception text => .str text
  | v =>
    if r.isPassed then v
    else (v.field? "message").getD v

/-- The answer to a command that nobody has to carry out. -/
def done (c : Command) : Response :=
  ⟨c.sessionId, success, .int 0, .null, .dict [("value", .null)]⟩

end Response

end AgentReporting
