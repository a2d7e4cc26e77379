import AgentReporting.Recorder.Manual

/-! # Moments of a recorder

Operations on a recorder are run from one moment to the next. The equations below open
an operation one step at a time.
-/

namespace AgentReporting

variable {σ α β : Type}

/-- A recorder, and what it has left behind so far. -/
structure Moment (σ : Type) where
  recorder : Recorder
  trail : Trail σ

namespace Moment

section Steps

variable (m : Moment σ)

def run (op : Recording σ α) : α × Moment σ :=
  let ((a, recorder), trail) := (op.run m.recorder).run m.trail
  (a, ⟨recorder, trail⟩)

@[simp] theorem run_pure (a : α) : m.run (pure a) = (a, m) := rfl

@[simp] theorem run_bind (op : Recording σ α) (f : α → Recording σ β) :
    m.run (op >>= f) = (m.run op).2.run (f (m.run op).1) := rfl

@[simp] theorem run_discard (op : Recording σ α) : m.run (discard op) = ((), (m.run op).2) := rfl

@[simp] theorem run_get : m.run get = (m.recorder, m) := rfl

@[simp] theorem run_set (recorder : Recorder) :
    m.run (set recorder) = ((), { m with recorder }) := rfl

@[simp] theorem run_liftM (act : Act σ α) :
    m.run (liftM act) = ((act.run m.trail).1, { m with trail := (act.run m.trail).2 }) := rfl

end Steps

variable (links : Links σ) (m : Moment σ)

def observed (name : Option String) (force : Bool) : Moment σ :=
  if m.recorder.switches.testsDisabled then m
  else (m.run (Recorder.reportTest links name force)).2

def stashed (key : String) (a : Attempted) : Moment σ :=
  { m with recorder := { m.recorder with stash := m.recorder.stash.put key a } }

def logged (text : String) : Moment σ :=
  { m with trail := ((Act.error text).run m.trail).2 }

def reported (refusal : String) (a : Attempted) : Moment σ :=
  let outcome := m.run (Recorder.reportCommand links a .null)
  if outcome.1 then outcome.2 else outcome.2.logged refusal

def cleared : Moment σ := (m.run (Recorder.clearStash links)).2

theorem run_reportCommand_eq (a : Attempted) (screenshot : Value) :
    m.run (Recorder.reportCommand links a screenshot) =
      let told := m.run (Recorder.tellCommand links a screenshot)
      (Recorder.accepted told.1, told.2) := rfl

theorem run_reportCopies_cons (a : Copy) (rest : List Copy) :
    m.run (Recorder.reportCopies links (a :: rest)) =
      (m.reported links s!"Failed to report stashed command [{a.command.name}]"
        a.toAttempted).run (Recorder.reportCopies links rest) := by
  rw [Recorder.reportCopies, run_bind, reported]
  cases (m.run (Recorder.reportCommand links a.toAttempted .null)).1 <;> rfl

theorem cleared_eq :
    m.cleared links =
      (Moment.run { m with recorder := { m.recorder with stash := [] } }
        (Recorder.reportCopies links (m.recorder.stash.map (·.2)))).2 := rfl

/-- What comes of reporting an attempt at once, when everything stashed has been reported. -/
def told (a : Attempted) : Except Fault Bool :=
  ((m.cleared links).run (Recorder.tellCommand links a .null)).1

def direct (a : Attempted) : Recording σ (Except Fault Unit) := do
  Recorder.clearStash links
  let told ← Recorder.tellCommand links a .null
  if !Recorder.accepted told then
    Act.error (σ := σ) s!"Failed to report command [{a.command.name}]"
  return told.map fun _ => ()

theorem run_direct (a : Attempted) :
    m.run (direct links a) = ((m.told links a).map fun _ => (),
      (m.cleared links).reported links s!"Failed to report command [{a.command.name}]" a) := by
  rw [direct, run_bind, show (m.run (Recorder.clearStash links)).2 = m.cleared links from rfl,
    run_bind, reported, told, run_reportCommand_eq]
  generalize (m.cleared links).run (Recorder.tellCommand links a .null) = done
  obtain ⟨told, after⟩ := done
  cases h : Recorder.accepted told <;> simp only [h] <;> rfl

/-- What is left of `Recorder.report` once the running test has been observed. -/
def file (site : Callsite) (a : Attempted) : Recording σ (Except Fault Unit) := do
  if a.command.isQuit then return .ok ()
  if site.insideWait then
    match a.command.structuralKey with
    | .error fault => return .error fault
    | .ok key =>
      modify fun recorder => { recorder with stash := recorder.stash.put key a }
      return Fault.orOk a.copyFault? ()
  direct links a

theorem run_file (site : Callsite) (a : Attempted) :
    m.run (file links site a) =
      if a.command.isQuit then (.ok (), m)
      else if site.insideWait then
        match a.command.structuralKey with
        | .error fault => (.error fault, m)
        | .ok key => (Fault.orOk a.copyFault? (), m.stashed key a)
      else ((m.told links a).map fun _ => (), (m.cleared links).reported links
        s!"Failed to report command [{a.command.name}]" a) := by
  rw [file]
  cases a.command.isQuit <;> cases site.insideWait <;> cases a.command.structuralKey <;>
    first | rfl | exact run_direct links m a

theorem run_report (site : Callsite) (a : Attempted) :
    m.run (Recorder.report links site a) =
      (m.observed links (Naming.test site) a.command.isQuit).run (file links site a) := by
  rw [Recorder.report, observed, run_bind, run_get]
  cases m.recorder.switches.testsDisabled <;> rfl

/-- The screenshot for a step, null unless one is requested. -/
def shot (camera : Option (Attempt σ Value)) (request : Recorder.StepRequest) : Act σ Value :=
  if request.screenshot then Recorder.takeScreenshot camera else pure .null

def describe (camera : Option (Attempt σ Value)) (request : Recorder.StepRequest) :
    Recording σ Bool := do
  match Recorder.sink? links (← get) with
  | none => return true
  | some submit =>
    let screenshot ← shot (σ := σ) camera request
    let guid ← Act.freshId (σ := σ)
    return ← submit (.step {
      guid, description := request.description, message := request.message
      passed := request.passed, screenshot })

theorem run_step (camera : Option (Attempt σ Value)) (site : Callsite)
    (request : Recorder.StepRequest) :
    m.run (Recorder.step links camera site request) =
      if m.recorder.switches.reportsDisabled then (true, m)
      else (m.observed links (Naming.test site) false).run (describe links camera request) := by
  rw [Recorder.step, observed, run_bind, run_get]
  cases hr : m.recorder.switches.reportsDisabled with
  | true =>
    have hs : Recorder.sink? links m.recorder = none := by rw [Recorder.sink?, hr]; rfl
    simp only [Bool.not_true, Bool.false_and, Bool.false_eq_true, if_false, run_bind, run_get,
      run_pure, hs]
    rfl
  | false =>
    simp only [describe, shot]
    cases request.screenshot <;> cases m.recorder.switches.testsDisabled <;> rfl

theorem run_execute (site : Callsite) (c : Command) (skip : Bool) :
    m.run (Recorder.execute links site c skip) =
      match (links.send c).result.run m.trail with
      | (.error fault, trail) => (.error fault, { m with trail })
      | (.ok response, trail) =>
        if skip then (.ok response, { m with trail })
        else
          let (done, m) := Moment.run { m with trail } (Recorder.report links site ⟨c, response⟩)
          (done.map fun _ => response, m) := by
  rw [Recorder.execute, run_bind, run_liftM]
  obtain ⟨answer, trail⟩ := (links.send c).result.run m.trail
  cases answer with
  | error fault => rfl
  | ok response =>
    cases skip with
    | true => rfl
    | false =>
      simp only [Bool.false_eq_true, if_false, run_bind]
      generalize Moment.run _ (Recorder.report links site ⟨c, response⟩) = done
      obtain ⟨done, after⟩ := done
      cases done <;> rfl

end Moment

end AgentReporting
