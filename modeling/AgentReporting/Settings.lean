import AgentReporting.Fault

/-! # Report settings

A session names its project and job and says where reports are published. Names
given explicitly win over inferred ones, unless they are empty.
-/

namespace AgentReporting

/-- Where the Agent publishes execution reports. -/
inductive ReportType where
  | cloudAndLocal
  | localOnly
  | cloudOnly
deriving DecidableEq

namespace ReportType

def name : ReportType → String
  | cloudAndLocal => "CLOUD_AND_LOCAL"
  | localOnly => "LOCAL"
  | cloudOnly => "CLOUD"

def ofName? (name : String) : Option ReportType :=
  [cloudAndLocal, localOnly, cloudOnly].find? fun t => t.name == name

end ReportType

structure ReportSettings where
  project : Option String := none
  job : Option String := none
  type : ReportType := .cloudAndLocal
  name : Option String := none
  path : Option String := none
deriving DecidableEq

namespace ReportSettings

/-- A name counts when it is given and not empty. -/
def present (name : Option String) : Bool :=
  name.any fun s => !s.isEmpty

def isComplete (settings : ReportSettings) : Bool :=
  present settings.project && present settings.job

def prefer (explicit inferred : Option String) : Option String :=
  if present explicit then explicit else inferred

/-- Fills missing names from `inferred`; everything else stays. -/
def mergedWith (settings inferred : ReportSettings) : ReportSettings :=
  { settings with
    project := prefer settings.project inferred.project
    job := prefer settings.job inferred.job }

def sameNames (a b : ReportSettings) : Bool :=
  a.project == b.project && a.job == b.job

end ReportSettings

end AgentReporting
