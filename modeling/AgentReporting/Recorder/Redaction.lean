import AgentReporting.Trail
import AgentReporting.Response
import AgentReporting.Session

/-! # Redaction

Text typed into a secure field is masked in reports. The automation server is
asked whether the field is secure; when it cannot tell, nothing is masked.
-/

namespace AgentReporting.Redaction

variable {σ : Type}

def mask : Value := .str "***"

def secureTypes : List String := ["password", "XCUIElementTypeSecureTextField"]

/-- Keys under which an element refers to itself. -/
def elementKeys : List String := ["element-6066-11e4-a52e-4f735466cecf", "ELEMENT"]

/-- Whether a session drives an Android application rather than a browser on Android. -/
def isAndroidNative (caps : Capabilities) : Bool :=
  let platform := Capabilities.get caps platformKey
  platform.truthy && Decimal.lowerAscii platform.display.toList == "android" &&
    !(Capabilities.get caps browserKey).truthy

/-- The id in a reference to an element, null when there is none. -/
def elementId (value : Value) : Value :=
  ((elementKeys.map value.get).find? Value.truthy).getD .null

def isRedactable (c : Command) : Bool :=
  c.name == Command.sendKeysToElement || c.name == Command.sendKeysToActiveElement

/-- The question which element has the focus. -/
def askActive (c : Command) : Command :=
  { sessionId := c.sessionId, name := Command.activeElement }

/-- The question for an attribute of an element. -/
def askAttribute (c : Command) (id : Value) (name : String) : Command :=
  { sessionId := c.sessionId, name := Command.elementAttribute
    parameters := .dict [("id", id), ("name", .str name)] }

/-- The attribute that tells whether a field is secure. -/
def secureAttribute (caps : Capabilities) : String :=
  if isAndroidNative caps then "password" else "type"

/-- Whether the answer to that question says so. -/
def saysSecure (caps : Capabilities) (value : Value) : Bool :=
  if isAndroidNative caps then Decimal.lowerAscii value.display.toList == "true"
  else match value with
    | .str type => secureTypes.contains type
    | _ => false

/-- The value of an answer that passed, null otherwise. -/
def valueIfPassed (r : Response) : Value :=
  if r.isPassed then r.value else .null

/-- The element that a send-keys command types into. -/
def target (send : Command → Attempt σ Response) (c : Command) : Attempt σ Value := do
  if c.name == Command.sendKeysToElement then return c.parameters.get "id"
  else return elementId (valueIfPassed (← send (askActive c)))

/-- Asks whether a command types into a secure field. -/
def targetsSecret (send : Command → Attempt σ Response) (caps : Capabilities) (c : Command) :
    Attempt σ Bool := do
  let id ← target send c
  if !id.truthy then return false
  let answer ← send (askAttribute c id (secureAttribute caps))
  return saysSecure caps (valueIfPassed answer)

def masked (c : Command) : Command :=
  c.withParameters [("text", mask), ("value", mask)]

/-- Whether a command is known to type a secret; a failed question tells nothing. -/
def hidesText (send : Command → Attempt σ Response) (caps : Capabilities) (c : Command) :
    Act σ Bool := do
  if !isRedactable c then return false
  match ← (targetsSecret send caps c).result with
  | .ok secret => return secret
  | .error _ => return false

/-- The command to report for `c`, whose text may be a secret. It is masked in a copy. -/
def disguise (secret : Bool) (c : Command) : Except Fault Command :=
  if secret then Fault.orOk c.copyFault? (masked c) else .ok c

/-- The command to report for `c`. -/
def redact (send : Command → Attempt σ Response) (caps : Capabilities) (c : Command) :
    Act σ (Except Fault Command) :=
  return disguise (← hidesText send caps c) c

end AgentReporting.Redaction
