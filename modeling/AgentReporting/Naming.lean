import AgentReporting.Callsite
import AgentReporting.Settings

/-! # Names taken from the call site

Project, job and test are named after the running test: by the node that a test
runner announces, by the test case on the stack, or by the entry script.
-/

namespace AgentReporting

inductive Strategy where
  | announced
  | testCase
  | script
deriving DecidableEq

namespace Naming

variable {σ : Type}

/-- The variable in which a test runner announces the running test. -/
def announcementKey : String := "PYTEST_CURRENT_TEST"

def runnerModule : String := "_pytest"

/-- The announcement, unless it is empty. -/
def announcement? (site : Callsite) : Option String :=
  Config.nonEmpty? (Entries.get? site.env announcementKey)

def strategy (site : Callsite) : Strategy :=
  let runs := site.frames.any (·.module.startsWith runnerModule)
  if (announcement? site).isSome || runs then .announced
  else if site.frames.any (·.testCase?.isSome) then .testCase
  else .script

/-! ## The announced test -/

/-- The announcement without its last remark in brackets, unless nothing is left. -/
def nodeId? (site : Callsite) : Option (List Char) := do
  let text := (← announcement? site).toList
  let node := (Text.beforeLast? [' ', '('] text).getD text
  if node.isEmpty then none else some node

/-- The file that a node lies in, which ends at the first double colon. -/
def nodeFile (node : List Char) : List Char :=
  match Text.cut? [':', ':'] node with
  | some (file, _) => file
  | none => node

/-- The test that a node names, which follows the last double colon. -/
def nodeTest (node : List Char) : List Char :=
  (Text.pieces ':' [':'] node).getLast?.getD []

def testFrame? (site : Callsite) : Option Frame :=
  site.named.find? (·.function.startsWith "test")

/-- The file of a test names the job, its directory the project. -/
def fileSettings (site : Callsite) (file : String) : ReportSettings :=
  let path := FilePath.ofString file
  let folder := path.parent.name
  let project := if folder.isEmpty then site.directory.name else folder
  { project := some project, job := some path.stem }

def announcedSettings (site : Callsite) : Option ReportSettings :=
  match nodeId? site with
  | some node => some (fileSettings site (String.ofList (nodeFile node)))
  | none => (testFrame? site).map fun frame => fileSettings site frame.file

def announcedTest (site : Callsite) : Option String :=
  match nodeId? site with
  | some node => some (String.ofList (nodeTest node))
  | none => (testFrame? site).map (·.function)

/-! ## The test case on the stack -/

def testCase? (site : Callsite) : Option TestCase :=
  site.named.findSome? (·.testCase?)

/-- Why no file is found for a class. The main module may have none, other modules are built in. -/
def unsourced (found : TestCase) : Fault :=
  if found.module == "__main__" then .mismatch .os "source code not available"
  else .mismatch .type s!"<class '{found.module}.{found.className}'> is a built-in class"

/-- The package of a test case, or else the directory of its file, names the project. -/
def caseProject (found : TestCase) : Except Fault String :=
  match Text.beforeLast? ['.'] found.module.toList with
  | some package => .ok (String.ofList package)
  | none =>
    match found.source with
    | some source =>
      .ok (if source.isEmpty then found.module else (FilePath.ofString source).parent.name)
    | none => .error (unsourced found)

def caseSettings (site : Callsite) : Except Fault (Option ReportSettings) :=
  match testCase? site with
  | none => .ok none
  | some found =>
    (caseProject found).map fun project =>
      some { project := some project, job := some found.className }

def caseTest (site : Callsite) : Option String :=
  (testCase? site).bind (·.method)

/-! ## The entry script -/

/-- The outermost frame of the main module, or else the outermost frame. -/
def entryFrame? (site : Callsite) : Option Frame :=
  (site.named.reverse.find? (·.module == "__main__")).orElse fun _ => site.named.getLast?

def unnamed : ReportSettings := { project := some "Unnamed Project", job := some "Unnamed Job" }

/-- The default names, with a note in the log. -/
def useUnnamed : Act σ ReportSettings := do
  Act.info "Failed to infer Project and Job names, will use default 'Unnamed' values."
  return unnamed

def scriptSettings (site : Callsite) : Attempt σ ReportSettings :=
  match entryFrame? site with
  | none => .lift useUnnamed
  | some entry =>
    if entry.file.startsWith "<" then .lift useUnnamed
    else if entry.file.toList.contains '\x00' then
      throw (.mismatch .value "lstat: embedded null character in path")
    else
      let path := FilePath.resolve site.directory (FilePath.ofString entry.file)
      return { project := some path.parent.name, job := some path.stem }

/-- The outermost function of the entry script, or else the script. -/
def scriptTest (site : Callsite) : Option String := do
  let entry ← entryFrame? site
  let frames := site.named.reverse.filter (·.file == entry.file)
  match frames.find? (·.function != "<module>") with
  | some frame => frame.function
  | none => (FilePath.ofString entry.file).stem

/-! ## Strategies -/

def settingsBy (strategy : Strategy) (site : Callsite) : Attempt σ (Option ReportSettings) :=
  match strategy with
  | .announced => return announcedSettings site
  | .testCase => .ofExcept (caseSettings site)
  | .script => return some (← scriptSettings site)

def testBy (strategy : Strategy) (site : Callsite) : Option String :=
  match strategy with
  | .announced => announcedTest site
  | .testCase => caseTest site
  | .script => scriptTest site

/-- Names by the strategy that fits; incomplete ones are replaced by those of the script. -/
def settings (site : Callsite) : Attempt σ ReportSettings := do
  match ← settingsBy (strategy site) site with
  | some found => if found.isComplete then return found else scriptSettings site
  | none => scriptSettings site

/-- The name of the running test. -/
def test (site : Callsite) : Option String :=
  testBy (strategy site) site

end Naming

end AgentReporting
