import AgentReporting.Network
import AgentReporting.Value.Coercion
import AgentReporting.Value.Parts

/-! # Endpoints of the automation server

A command goes to an endpoint below the address of its session. Parameters that the
path names are written into it, and the others are the body.
-/

namespace AgentReporting

/-- A step of a path. -/
inductive Segment where
  | word (text : String)
  | parameter (name : String)
deriving DecidableEq

structure Endpoint where
  method : String
  path : List Segment
deriving DecidableEq

namespace Endpoint

/-- The parameter that names the session. -/
def sessionKey : String := "sessionId"

/-- An endpoint of a session; a dollar sign marks the name of a parameter. -/
def ofSession (method : String) (rest : List String) : Endpoint :=
  { method
    path := .word "session" :: .parameter sessionKey :: rest.map fun step =>
      match step.toList with
      | '$' :: name => .parameter (String.ofList name)
      | _ => .word step }

/-- The commands of the standard that drivers send. -/
def standard : List (String × Endpoint) :=
  [("get", ofSession "POST" ["url"]),
    ("getTitle", ofSession "GET" ["title"]),
    ("refresh", ofSession "POST" ["refresh"]),
    ("screenshot", ofSession "GET" ["screenshot"]),
    ("findElement", ofSession "POST" ["element"]),
    ("findElements", ofSession "POST" ["elements"]),
    ("w3cGetActiveElement", ofSession "GET" ["element", "active"]),
    ("clickElement", ofSession "POST" ["element", "$id", "click"]),
    ("clearElement", ofSession "POST" ["element", "$id", "clear"]),
    ("sendKeysToElement", ofSession "POST" ["element", "$id", "value"]),
    ("getElementAttribute", ofSession "GET" ["element", "$id", "attribute", "$name"]),
    ("w3cExecuteScript", ofSession "POST" ["execute", "sync"]),
    ("quit", ofSession "DELETE" [])]

def ofDevice (method step : String) : Endpoint :=
  ofSession method ["appium", "device", step]

/-- The commands that only mobile devices know. -/
def device : List (String × Endpoint) :=
  [("getCurrentActivity", ofDevice "GET" "current_activity"),
    ("getCurrentPackage", ofDevice "GET" "current_package"),
    ("hideKeyboard", ofDevice "POST" "hide_keyboard"),
    ("isKeyboardShown", ofDevice "GET" "is_keyboard_shown"),
    ("pressKeyCode", ofDevice "POST" "press_keycode"),
    ("longPressKeyCode", ofDevice "POST" "long_press_keycode"),
    ("activateApp", ofDevice "POST" "activate_app"),
    ("terminateApp", ofDevice "POST" "terminate_app"),
    ("queryAppState", ofDevice "POST" "app_state"),
    ("getDeviceTime", ofDevice "GET" "system_time"),
    ("getClipboard", ofDevice "POST" "get_clipboard"),
    ("setClipboard", ofDevice "POST" "set_clipboard")]

def find? (mobile : Bool) (name : String) : Option Endpoint :=
  (standard.lookup name).orElse fun _ => if mobile then device.lookup name else none

def parameters (endpoint : Endpoint) : List String :=
  endpoint.path.filterMap fun
    | .parameter name => some name
    | .word _ => none

/-- The text of a step of a path, which begins with a slash. -/
def stepText (params : Value) : Segment → Except Fault String
  | .word text => .ok ("/" ++ text)
  | .parameter name =>
    match params.field? name with
    | some value => .ok ("/" ++ value.display)
    | none => .error (.mismatch .key (Text.quoted name))

def pathText (endpoint : Endpoint) (params : Value) : Except Fault String :=
  return "".intercalate (← endpoint.path.mapM (stepText params))

/-- The request for a command below the address of the server, written as it is. -/
def wireCommand (mobile : Bool) (address name : String) (params : Value) :
    Except Fault WireCommand := do
  let some endpoint := find? mobile name | throw (.unknownCommand name)
  let path ← endpoint.pathText params
  let body := params.without endpoint.parameters
  if !body.isPlain then throw Fault.foreignKey
  return { method := endpoint.method, url := address ++ path, body }

end Endpoint

end AgentReporting
