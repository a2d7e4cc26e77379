import AgentReporting.Session

/-! # Options

Options hold the capabilities that a driver asks for. Those of a browser carry settings
of its vendor that cannot be replaced. Options of mobile devices put a vendor mark before
every name that the standard does not define.
-/

namespace AgentReporting

inductive Browser where
  | chrome
  | firefox
  | edge
  | safari
deriving DecidableEq

namespace Options

/-- Capabilities that the standard defines. -/
def standardNames : List String :=
  ["browserName", "browserVersion", "platformName", "pageLoadStrategy", "proxy", "setWindowRect",
    "timeouts", "unhandledPromptBehavior", "acceptInsecureCerts", "strictFileInteractability",
    "webSocketUrl"]

def vendorMark : String := "appium:"

def mobileName (name : String) : String :=
  if standardNames.contains name || name.contains ':' then name else vendorMark ++ name

def normalLoad : String × Value := ("pageLoadStrategy", .str "normal")

def setMobile (caps : Capabilities) (name : String) (value : Value) : Capabilities :=
  Entries.put caps (mobileName name) value

/-- Options of a mobile platform. -/
def mobile (platform : Option String) : Capabilities :=
  match platform.filter fun p => !p.isEmpty with
  | some platform => setMobile [normalLoad] platformKey (.str platform)
  | none => [normalLoad]

/-! ## Browsers -/

/-- What a browser is asked for, apart from the settings of its vendor. -/
def standard : Browser → Capabilities
  | .chrome => [(browserKey, .str "chrome"), normalLoad]
  | .edge => [(browserKey, .str "MicrosoftEdge"), normalLoad]
  | .firefox =>
    [(browserKey, .str "firefox"), ("acceptInsecureCerts", .bool true),
      ("moz:debuggerAddress", .bool true), normalLoad]
  | .safari => [(browserKey, .str "safari"), (platformKey, .str "mac"), normalLoad]

def emptyVendorSettings : Value := .dict [("extensions", .list []), ("args", .list [])]

/-- The settings of the vendor. -/
def vendor : Browser → Capabilities
  | .chrome => [("goog:chromeOptions", emptyVendorSettings)]
  | .edge => [("ms:edgeOptions", emptyVendorSettings)]
  | .firefox =>
    [("moz:firefoxOptions", .dict [("prefs", .dict [("remote.active-protocols", .int 1)])])]
  | .safari => []

/-- Options of a browser with some capabilities set. -/
def browser (b : Browser) (given : Capabilities) : Capabilities :=
  Entries.merge (Entries.merge (standard b) given) (vendor b)

end Options

end AgentReporting
