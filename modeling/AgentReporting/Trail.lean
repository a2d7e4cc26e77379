import AgentReporting.Fault

/-! # What an operation leaves behind

Operations write log lines and notices, take fresh identifiers and act on what
is outside. All of it is kept when an operation fails.
-/

namespace AgentReporting

inductive Level where
  | info
  | warning
  | error
deriving DecidableEq

/-- A line of the log; `reason` holds words of an outside reader that may follow the text. -/
structure LogLine where
  level : Level
  text : String
  reason : Option String := none
deriving DecidableEq

/-- The marks of a run, and the world `σ` outside it. -/
structure Trail (σ : Type) where
  outside : σ
  log : List LogLine := []
  printed : String := ""
  identifiers : Nat := 0

/-- An operation that always gives an answer. -/
abbrev Act (σ : Type) := StateM (Trail σ)

/-- An operation that may fail. -/
abbrev Attempt (σ : Type) := ExceptT Fault (Act σ)

namespace Act

variable {σ τ α : Type}

def write (line : LogLine) : Act σ Unit :=
  modify fun p => { p with log := p.log ++ [line] }

def info (text : String) : Act σ Unit := write ⟨.info, text, none⟩

def warn (text : String) : Act σ Unit := write ⟨.warning, text, none⟩

def error (text : String) : Act σ Unit := write ⟨.error, text, none⟩

/-- An error whose text ends in the words of an outside reader. -/
def errorBecause (text reason : String) : Act σ Unit := write ⟨.error, text, some reason⟩

def print (text : String) : Act σ Unit :=
  modify fun p => { p with printed := p.printed ++ text }

/-- A fresh identifier; the `n`-th one ends in `n` in hexadecimal. -/
def freshId : Act σ String := do
  let p ← get
  let n := p.identifiers + 1
  set { p with identifiers := n }
  return "00000000-0000-0000-0000-" ++ String.ofList (Text.paddedDigits 16 12 n)

/-- Acts on the outside only. -/
def outside (act : StateM σ α) : Act σ α := fun p =>
  let (a, s) := act p.outside
  (a, { p with outside := s })

/-- Acts on a part of the outside, whose log lines and notices are kept. -/
def within (view : σ → τ) (store : τ → σ → σ) (act : Act τ α) : Act σ α := fun p =>
  let (a, q) := act { p with outside := view p.outside }
  (a, { q with outside := store q.outside p.outside })

def getOutside : Act σ σ := return (← get).outside

def setOutside (s : σ) : Act σ Unit := modify fun p => { p with outside := s }

def modifyOutside (f : σ → σ) : Act σ Unit := modify fun p => { p with outside := f p.outside }

end Act

namespace Attempt

variable {σ α : Type}

/-- The answer or the fault, as an answer. -/
def result (attempt : Attempt σ α) : Act σ (Except Fault α) := attempt.run

def ofResult (act : Act σ (Except Fault α)) : Attempt σ α := act

/-- An operation that always gives an answer, among those that may fail. -/
def lift (act : Act σ α) : Attempt σ α := ExceptT.lift act

def ofExcept (e : Except Fault α) : Attempt σ α := ExceptT.mk (pure e)

def info (text : String) : Attempt σ Unit := lift (Act.info text)

def warn (text : String) : Attempt σ Unit := lift (Act.warn text)

def error (text : String) : Attempt σ Unit := lift (Act.error text)

end Attempt

end AgentReporting
