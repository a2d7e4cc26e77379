import AgentReporting.Trail

/-! # The liveness connection

As long as a connection is open, the Agent takes the kit for alive. There is at most
one: opening it again changes nothing, and closing it always forgets it.
-/

namespace AgentReporting

structure Liveness where
  /-- Host and port of the open connection. -/
  peer : Option (String × Int) := none
deriving DecidableEq

namespace Liveness

variable {σ : Type}

def isOpen (liveness : Liveness) : Bool := liveness.peer.isSome

/-- Seconds to wait for a connection. -/
def dialTimeout : Float := 5.0

/-- Connects unless connected; `dial` gives the words of the system when it fails. -/
def connect (dial : String → Int → Act σ (Option String)) (host : String) (port : Int) :
    StateT Liveness (Act σ) (Except Fault Unit) := do
  if (← get).isOpen then return .ok ()
  match ← dial host port with
  | none =>
    set (Liveness.mk (some (host, port)))
    return .ok ()
  | some reason =>
    Act.error (σ := σ) s!"Failed connecting to Agent socket at {host}:{port}: {reason}"
    return .error (.connect (.socket host port))

/-- Disconnects if connected; `hangUp` gives the words of the system when it fails. -/
def disconnect (hangUp : Act σ (Option String)) : StateT Liveness (Act σ) Unit := do
  if !(← get).isOpen then return ()
  match ← hangUp with
  | none => pure ()
  | some reason =>
    Act.error (σ := σ) s!"Failed closing development socket connected to the Agent: {reason}"
  set (Liveness.mk none)

end Liveness

end AgentReporting
