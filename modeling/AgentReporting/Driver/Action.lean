import AgentReporting.Driver.Basic

/-! # What drivers offer

Each kind of driver offers some commands under names of its own: the parameters are put
together, and the value of the answer is given in the form that fits.
-/

namespace AgentReporting

/-- What a driver is asked to do. -/
inductive DriverAction where
  | get (url : Value)
  | title
  | command (name : String) (params : Value)
  | hideKeyboard
  | isKeyboardShown
  | activateApp (app : Value)
  | terminateApp (app : Value)
  | appState (app : Value)
  | deviceTime
  | currentActivity
  | currentPackage
  | pressKey (code state : Value)

namespace DriverAction

def appParams (app : Value) : Value := .dict [("appId", app), ("bundleId", app)]

def keyParams (code state : Value) : Value :=
  .dict (("keycode", code) :: match state with
    | .null => []
    | state => [("metastate", state)])

/-- The command and its parameters. -/
def request : DriverAction → String × Value
  | get url => ("get", .dict [("url", url)])
  | title => ("getTitle", .null)
  | command name params => (name, params)
  | hideKeyboard => ("hideKeyboard", .dict [])
  | isKeyboardShown => ("isKeyboardShown", .null)
  | activateApp app => ("activateApp", appParams app)
  | terminateApp app => ("terminateApp", appParams app)
  | appState app => ("queryAppState", appParams app)
  | deviceTime => ("getDeviceTime", .null)
  | currentActivity => ("getCurrentActivity", .null)
  | currentPackage => ("getCurrentPackage", .null)
  | pressKey code state => ("pressKeyCode", keyParams code state)

/-- What the driver gives back for a raw answer. -/
def result (action : DriverAction) (raw : Value) : Value :=
  match action with
  | get _ | hideKeyboard | activateApp _ | pressKey _ _ => .null
  | command _ _ => raw
  | isKeyboardShown | terminateApp _ => .bool (raw.get "value").truthy
  | _ => raw.get "value"

/-- Whether a kind of driver offers the action. -/
def isOffered (kind : DriverKind) : DriverAction → Bool
  | get _ | title | command _ _ => kind != .generic
  | currentActivity | currentPackage | pressKey _ _ => kind == .device .android
  | _ => kind.isMobile

def notOffered : Fault := .mismatch .attribute "the driver has no such attribute"

end DriverAction

/-- Parameters with the session of a driver, unless they name one or it has none. -/
def Driver.withSession (driver : Driver) (params : Value) : Value :=
  if !driver.sessionId.truthy then params
  else if !params.truthy then .dict [(Endpoint.sessionKey, driver.sessionId)]
  else if (params.field? Endpoint.sessionKey).isSome then params
  else params.withFields [(Endpoint.sessionKey, driver.sessionId)]

end AgentReporting
