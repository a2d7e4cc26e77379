import AgentReporting.Proofs.Recorder.Moment

/-! # Watched links

What passes over the links of a recorder is noted down in order. Watching changes neither
an answer nor a recorder, so what is proved of watched links holds of the links.
-/

namespace AgentReporting

variable {σ α β : Type}

/-- What passes over links: a command with its answer, or a report. -/
inductive Event where
  | sent (c : Command) (answer : Except Fault Response)
  | handed (s : Submission)

structure Watched (σ : Type) where
  outside : σ
  events : List Event := []

namespace Watched

/-- Acts on the outside behind the links. -/
def within (act : Act σ α) : Act (Watched σ) α :=
  Act.within Watched.outside (fun outside w => { w with outside }) act

def camera (camera : Option (Attempt σ Value)) : Option (Attempt (Watched σ) Value) :=
  camera.map fun take => Attempt.ofResult (within take.result)

def note (event : Event) : Act (Watched σ) Unit :=
  Act.modifyOutside fun w => { w with events := w.events ++ [event] }

def submit (submit : Submission → Act σ Bool) (s : Submission) : Act (Watched σ) Bool := do
  note (.handed s)
  within (submit s)

end Watched

/-- Links that note what passes over them. -/
def Links.watched (links : Links σ) : Links (Watched σ) where
  send c := Attempt.ofResult do
    let answer ← Watched.within (links.send c).result
    Watched.note (.sent c answer)
    return answer
  submit := links.submit.map Watched.submit

namespace Trail

def events (t : Trail (Watched σ)) : List Event := t.outside.events

def unwatched (t : Trail (Watched σ)) : Trail σ := { t with outside := t.outside.outside }

end Trail

namespace Moment

def events (m : Moment (Watched σ)) : List Event := m.trail.events

def unwatched (m : Moment (Watched σ)) : Moment σ := ⟨m.recorder, m.trail.unwatched⟩

def watched (m : Moment σ) : Moment (Watched σ) :=
  ⟨m.recorder, { m.trail with outside := { outside := m.trail.outside } }⟩

@[simp] theorem events_watched (m : Moment σ) : m.watched.events = [] := rfl

end Moment

section Events

variable (links : Links σ) (t : Trail (Watched σ))

theorem events_send (c : Command) :
    ((links.watched.send c).result.run t).2.events =
      t.events ++ [.sent c ((links.watched.send c).result.run t).1] := rfl

theorem events_submit {submit : Submission → Act (Watched σ) Bool}
    (h : links.watched.submit = some submit) (s : Submission) :
    ((submit s).run t).2.events = t.events ++ [.handed s] := by
  obtain ⟨inner, -, rfl⟩ := Option.map_eq_some_iff.mp h
  rfl

theorem events_within (act : Act σ α) : ((Watched.within act).run t).2.events = t.events := rfl

end Events

end AgentReporting
