import AgentReporting.Trail

/-! # Shutdown order

Hooks are registered for drivers and for the Agent client. At shutdown the hooks of
the drivers run first, in the order of their first registration, and that of the
client last. A hook that fails is logged and stops nobody.
-/

namespace AgentReporting

/-- Hooks `η` of drivers `κ`, and the hook of the client. -/
structure Registry (κ η : Type) where
  drivers : List (κ × η) := []
  client : Option η := none

namespace Registry

variable {κ η σ : Type} [DecidableEq κ]

/-- Sets the hook of a driver, which keeps its place when it is registered already. -/
def insert (key : κ) (hook : η) : List (κ × η) → List (κ × η)
  | [] => [(key, hook)]
  | entry :: rest =>
    if entry.1 = key then (key, hook) :: rest else entry :: insert key hook rest

def addDriver (registry : Registry κ η) (key : κ) (hook : η) : Registry κ η :=
  { registry with drivers := insert key hook registry.drivers }

def removeDriver (registry : Registry κ η) (key : κ) : Registry κ η :=
  { registry with drivers := registry.drivers.filter fun entry => entry.1 ≠ key }

def hasDriver (registry : Registry κ η) (key : κ) : Bool :=
  registry.drivers.any fun entry => entry.1 = key

def setClient (registry : Registry κ η) (hook : η) : Registry κ η :=
  { registry with client := some hook }

def removeClient (registry : Registry κ η) : Registry κ η :=
  { registry with client := none }

/-- Runs the hooks of drivers in order. -/
def runDrivers (run : η → Attempt σ Unit) : List η → Act σ Unit
  | [] => return ()
  | hook :: rest => do
    Act.info "Closing driver gracefully..."
    match ← (run hook).result with
    | .ok () => pure ()
    | .error fault => Act.error s!"Failed running driver shutdown hook: {fault.shown}"
    runDrivers run rest

def runClient (run : η → Attempt σ Unit) (hook : Option η) : Act σ Unit := do
  match hook with
  | none => return ()
  | some hook =>
    match ← (run hook).result with
    | .ok () => return ()
    | .error fault => Act.error s!"Failed running Agent client shutdown hook: {fault.shown}"

/-- Empties the registry found by `view`, and runs the hooks it held. -/
def shutdownAll (view : σ → Registry κ η) (store : Registry κ η → σ → σ)
    (run : η → Attempt σ Unit) : Act σ Unit := do
  let registry := view (← Act.getOutside)
  Act.modifyOutside (store {})
  runDrivers run (registry.drivers.map (·.2))
  runClient run registry.client

end Registry

end AgentReporting
