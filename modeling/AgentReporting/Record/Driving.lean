import AgentReporting.Driver.Action
import AgentReporting.Record.Reading

/-! # Records of clients and drivers

What clients and drivers are asked for is given as records: the options with what is
set in them, and actions by their names with their arguments.
-/

namespace AgentReporting

/-! ## Options -/

/-- Capabilities with the pairs of a list set one by one. -/
def Options.withPairs (set : Capabilities → String → Value → Capabilities) (caps : Capabilities)
    (pairs : List Value) : Capabilities :=
  pairs.foldl (fun caps pair =>
    match pair with
    | .list [.str name, value] => set caps name value
    | _ => caps) caps

def Options.mobileOf (v : Value) : Capabilities :=
  withPairs setMobile (mobile (v.textAt? "platform")) (v.itemsAt "set")

/-- The options for a kind of driver; those of a remote one are for its usual browser. -/
def DriverKind.optionsOf (kind : DriverKind) (v : Value) : Capabilities :=
  let given := Options.withPairs Entries.put [] (v.itemsAt "set")
  match kind with
  | .device _ => Options.mobileOf v
  | .browser b => Options.browser b given
  | _ => Options.browser .chrome given

/-- The options that are given; a generic driver takes none. -/
def DriverKind.options? (kind : DriverKind) (v : Value) : Option Capabilities :=
  (v.field? "options").bind fun options =>
    if options.isDict && kind != .generic then some (kind.optionsOf options) else none

def DriverKind.names : List (String × DriverKind) :=
  [("Chrome", .browser .chrome), ("Firefox", .browser .firefox), ("Edge", .browser .edge),
    ("Safari", .browser .safari), ("Remote", .remote), ("Android", .device .android),
    ("IOS", .device .ios), ("Generic", .generic)]

def DriverKind.ofName (name : String) : DriverKind := (names.lookup name).getD .generic

/-! ## Requests -/

def usualCapabilities : Value := .dict [(browserKey, .str "chrome")]

def usualAddress : Value := .str defaultAgentUrl

def usualToken : Value := .str "dev-token"

def ClientRequest.configOf (v : Value) : Option Config :=
  if (v.fieldOr "config" (.dict [])).isDict then
    some (Config.ofRecord (v.fieldOr "config" (.dict [])))
  else none

/-- What a client is asked for, with settings that are read apart. -/
def ClientRequest.ofRecord (v : Value) (settings : Option ReportSettings) : ClientRequest :=
  { capabilities := (v.fieldOr "capabilities" usualCapabilities).entries
    address := (v.fieldOr "remote_address" usualAddress).text?
    token := (v.fieldOr "token" usualToken).text?
    settings, disableReports := v.flagAt "disable_reports"
    batchReports := v.flagAt "batch_reports", config := configOf v }

/-- Settings under a key, with names for when there are none. -/
def ReportSettings.at? (v : Value) (key project job : String) :
    Except Fault (Option ReportSettings) :=
  let usual := Value.dict [("project", .str project), ("job", .str job)]
  let given := v.fieldOr key usual
  if given.isDict then (ReportSettings.ofRecord given).map some else .ok none

/-- Settings that stand among other fields. -/
def ReportSettings.among (v : Value) (project job : String) : Except Fault ReportSettings :=
  ReportSettings.ofRecord
    ((Value.dict [("project", .str project), ("job", .str job)]).withFields v.entries)

/-! ## Actions -/

def DriverAction.ofName? (name : String) (args : List Value) : Option DriverAction :=
  let arg (i : Nat) : Value := args.getD i .null
  match name with
  | "get" => some (.get (arg 0))
  | "title" => some .title
  | "execute" => some (.command ((arg 0).text?.getD "") (arg 1))
  | "hide_keyboard" => some .hideKeyboard
  | "is_keyboard_shown" => some .isKeyboardShown
  | "activate_app" => some (.activateApp (arg 0))
  | "terminate_app" => some (.terminateApp (arg 0))
  | "query_app_state" => some (.appState (arg 0))
  | "device_time" => some .deviceTime
  | "current_activity" => some .currentActivity
  | "current_package" => some .currentPackage
  | "press_keycode" => some (.pressKey (arg 0) (arg 1))
  | _ => none

/-- Flips the switch of a name. -/
def Recorder.switch {σ : Type} (links : Links σ) (name : String) (value : Bool) :
    Recording σ Unit :=
  match name with
  | "disable_reports" => disableReports value
  | "disable_command_reports" => disableCommandReports links value
  | "disable_auto_test_reports" => disableTestReports value
  | _ => disableRedaction value

end AgentReporting
