/-! # Console notices

Notices for the user are printed in verbose mode only, unless they are forced.
-/

namespace AgentReporting.Console

def notice (verbose : Bool) (tag message : String) (force : Bool) : String :=
  if verbose || force then s!"[{tag}] {message}\n" else ""

/-- The number of reports that still wait, written over the current line. -/
def outstanding (verbose : Bool) (tag : String) (remaining : Int) : String :=
  if verbose then s!"\r[{tag}] {remaining} outstanding reports" else ""

/-- Columns that a closing message fills, so that it covers the line before. -/
def lineWidth : Nat := 60

def outstandingDone (verbose : Bool) (tag message : String) : String :=
  if verbose then
    let padding := List.replicate (lineWidth - message.length) ' '
    s!"\r[{tag}] {message}" ++ String.ofList padding ++ "\n"
  else ""

end AgentReporting.Console
