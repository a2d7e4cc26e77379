import AgentReporting.Config
import AgentReporting.FilePath

/-! # Call sites

An operation knows from where it was called: the frames of the call stack, the
innermost first, the environment, and the working directory.
-/

namespace AgentReporting

/-- An instance of a test case class, as far as names are taken from it. -/
structure TestCase where
  className : String
  module : String
  method : Option String
  source : Option String
deriving DecidableEq

/-- The object whose method a frame runs. -/
inductive Receiver where
  | plain
  | testCase (instanceOf : TestCase)
deriving DecidableEq

structure Frame where
  module : String
  function : String
  file : String
  receiver : Option Receiver := none
deriving DecidableEq

namespace Frame

def testCase? (frame : Frame) : Option TestCase :=
  match frame.receiver with
  | some (.testCase found) => some found
  | _ => none

/-- Packages whose frames never name a test. -/
def internalPackages : List String := ["tpagent", "selenium"]

def isInternal (frame : Frame) : Bool :=
  internalPackages.any fun package =>
    frame.module == package || frame.module.startsWith (package ++ ".")

/-- Modules of polling waits. -/
def waitModules : List String := ["selenium.webdriver.support.wait"]

end Frame

structure Callsite where
  frames : List Frame := []
  env : Environment := []
  directory : FilePath
  /-- The version of the installed kit, if it is installed. -/
  installed : Option String := none

namespace Callsite

/-- Whether a polling wait is on the stack. -/
def insideWait (site : Callsite) : Bool :=
  site.frames.any fun frame => Frame.waitModules.contains frame.module

/-- The frames that may name a test. -/
def named (site : Callsite) : List Frame :=
  site.frames.filter fun frame => !frame.isInternal

/-- The frames of a chain of calls that is given from the outside in. -/
def framesOfCalls (calls : List Frame) : List Frame := calls.reverse

end Callsite

end AgentReporting
