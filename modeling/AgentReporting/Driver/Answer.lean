import AgentReporting.Json.Reader
import AgentReporting.Response

/-! # Raw answers as drivers take them

A driver takes a status other than zero for a fault. Beside a number the body of the error
may be sent as JSON text, whose error is then told by its name.
-/

namespace AgentReporting.RawAnswer

def isSuccess (raw : Value) : Bool :=
  let status := raw.get "status"
  !status.truthy || Response.isZero status

/-- Whether an error is the one that says that an element was not found, which has a name
and a number. -/
def tellsNoElement (error : Value) : Bool :=
  Value.same error (.str "no such element") || Value.same error (.int 7)

/-- The fault of an error that tells `message`. -/
def faultOf (error message : Value) : Fault :=
  if tellsNoElement error then .noSuchElement message.display else .automation message.display

/-- What is neither a text nor a dictionary tells nothing. -/
def faultOfOther : Value → Fault
  | .list items => .noAttribute (.list items) "get"
  | v => .mismatch .type s!"argument of type '{v.kindName}' is not iterable"

/-- The fault that is told by the body of an answer itself. -/
def faultOfBody (error raw body : Value) : Fault :=
  match body with
  | .str text => faultOf error (.str text)
  | .dict _ =>
    let message := (raw.field? "message").getD (.str "")
    let message :=
      if Value.same message (.str "") then (body.field? "message").getD message else message
    faultOf error message
  | v => faultOfOther v

/-- The fault that is told by an error without a name, by its value or by its message; an
error that tells nothing is shown as a whole. -/
def faultOfNameless (text : String) (inner : Value) : Fault :=
  let error := inner.get "status"
  let told := if (inner.get "value").truthy then inner.get "value" else inner.get "message"
  if told.isText then faultOf error told
  else if !told.truthy then faultOf error (.str text)
  else if told.isDict then faultOf error (told.get "message")
  else faultOfOther told

/-- The fault that is told by the JSON text of a body. -/
def faultOfText (error raw : Value) (text : String) (body : Value) : Fault :=
  match body with
  | .dict fields =>
    match (if fields.length = 1 then body.field? "value" else some body) with
    | none => .mismatch .key "'value'"
    | some inner =>
      if !inner.isDict then .noAttribute inner "get"
      else if (inner.get "error").truthy then faultOf (inner.get "error") (inner.get "message")
      else faultOfNameless text inner
  | body => faultOfBody error raw (if body.truthy then body else .str text)

def isNumber : Value → Bool
  | .bool _ => true
  | .int _ => true
  | _ => false

/-- Refuses an answer whose status tells of an error. -/
def check (raw : Value) : Except Fault Unit :=
  let error := raw.get "status"
  if isSuccess raw then .ok ()
  else
    match raw.field? "value" with
    | none => .error (.mismatch .key "'value'")
    | some (.str text) =>
      match (if isNumber error then Json.read? text else none) with
      | some body => .error (faultOfText error raw text body)
      | none => .error (faultOf error (.str text))
    | some body => .error (faultOfBody error raw body)

/-- The answer that a driver gives on: nothing at all stands for success. -/
def completed (sessionId raw : Value) : Except Fault Value :=
  if !raw.truthy then
    .ok (.dict [("success", .int 0), ("value", .null), ("sessionId", sessionId)])
  else do
    check raw
    return raw.withFields [("value", raw.get "value")]

end AgentReporting.RawAnswer
