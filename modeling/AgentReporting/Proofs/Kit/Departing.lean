import AgentReporting.Kit.Drivers
import AgentReporting.Proofs.Kit.Hooks
import AgentReporting.Proofs.Kit.Renewal
import AgentReporting.Proofs.Recorder.Quitting
import AgentReporting.Proofs.Recorder.Sites
import AgentReporting.Proofs.Recorder.Sparing

/-! # Drivers that depart

A driver departs when it is stopped, when it quits, and at shutdown. It reports what is
stashed and quits its session while its client is still open. Its running test is closed,
unless the automation server fails to quit.
-/

namespace AgentReporting

variable {σ τ α ρ : Type}

def Driver.quitCommand (driver : Driver) : Command :=
  if driver.kind = .generic ∨ driver.sessionId.truthy then driver.bareCommand Command.quit
  else { sessionId := .null, name := Command.quit }

theorem Driver.isQuit_quitCommand (driver : Driver) : driver.quitCommand.isQuit = true := by
  unfold quitCommand
  split <;> exact beq_self_eq_true _

def Driver.emptied (driver : Driver) : Driver :=
  { driver with recorder := { driver.recorder with stash := [] } }

namespace Kit

/-- A driver, and which clients are closed. -/
def standing (id : Nat) (kit : Kit τ) : Option Driver × List Bool :=
  (kit.drivers[id]?, kit.clients.map (·.closed))

variable (net : Network τ)

theorem updateClient_spares {view : Client → ρ} {f : Client → Act τ (Client × α)}
    (hf : ∀ client, (f client).Gives fun done => view done.1 = view client) (n : Nat) :
    (updateClient n f).Keeps fun kit => (kit.drivers, kit.clients.map view) := by
  intro trail
  rw [run_updateClient]
  cases hn : trail.outside.clients[n]? with
  | none => rfl
  | some client =>
    refine congrArg (Prod.mk _) ?_
    obtain ⟨hlt, rfl⟩ := List.getElem?_eq_some_iff.mp hn
    have hset := List.set_getElem_self
      (show n < (trail.outside.clients.map view).length by simpa using hlt)
    rw [List.getElem_map] at hset
    rw [List.map_set, hf, hset]

theorem links_spares (view : Client → ρ)
    (hv : ∀ client report, view (Client.submit client report).1 = view client) (driver : Driver) :
    (links net driver).Spares fun kit => (kit.drivers, kit.clients.map view) := by
  constructor
  · intro c
    exact .ite (.answer _) fun trail => rfl
  · intro submit hs s
    cases hs
    refine .seq (updateClient_spares (fun client => .answer ?_) _) fun _ => .answer _
    exact hv client s.report

theorem links_standing (driver : Driver) (id : Nat) : (links net driver).Spares (standing id) :=
  (links_spares net (·.closed) (fun client report => (client.submit_continues report).closed)
    driver).through fun kept => (kept.1[id]?, kept.2)

def restored (id : Nat) (m : Moment (Kit τ)) : Trail (Kit τ) :=
  { m.trail with outside := { m.trail.outside with
      drivers := m.trail.outside.drivers.modify id fun driver =>
        { driver with recorder := m.recorder } } }

def takenOut (driver : Driver) (trail : Trail (Kit τ)) : Moment (Kit τ) := ⟨driver.recorder, trail⟩

variable {id : Nat} {driver : Driver} {trail : Trail (Kit τ)}

theorem run_record_none (hd : trail.outside.drivers[id]? = none)
    (f : Driver → Recording (Kit τ) α) : (record id f).run trail = (none, trail) := by
  unfold record
  rw [Act.run_bind, Act.run_getOutside]
  simp only [hd]
  rfl

theorem run_record (hd : trail.outside.drivers[id]? = some driver)
    (f : Driver → Recording (Kit τ) α) :
    (record id f).run trail =
      (some ((takenOut driver trail).run (f driver)).1,
        restored id ((takenOut driver trail).run (f driver)).2) := by
  unfold record
  rw [Act.run_bind, Act.run_getOutside]
  simp only [hd]
  rfl

theorem run_flush (hd : trail.outside.drivers[id]? = some driver) :
    ((flush net id).run trail).2 =
      restored id ((takenOut driver trail).cleared (links net driver)) := by
  have hr := run_record hd fun driver => Recorder.clearStash (links net driver)
  exact congrArg Prod.snd hr

theorem commandOf_quit (hk : driver.kind ≠ .generic) :
    Connection.commandOf Command.quit (driver.withSession .null) = .ok driver.quitCommand := by
  cases ht : driver.sessionId.truthy with
  | true =>
    have hw : driver.withSession .null = .dict [(Endpoint.sessionKey, driver.sessionId)] := by
      rw [Driver.withSession, ht]
      rfl
    have hq : driver.quitCommand = driver.bareCommand Command.quit := if_pos (.inr ht)
    rw [hw, hq]
    rfl
  | false =>
    have hw : driver.withSession .null = .null := by
      rw [Driver.withSession, ht]
      rfl
    have hq : driver.quitCommand = { sessionId := .null, name := Command.quit } :=
      if_neg (by simp [hk, ht])
    rw [hw, hq]
    rfl

theorem run_quitSession (site : Callsite) (hd : trail.outside.drivers[id]? = some driver) :
    ((quitSession net site id).result.run trail).2 =
      restored id ((takenOut driver trail).performed (links net driver)
        (.execute site driver.quitCommand false)) := by
  unfold quitSession
  rw [Attempt.run_bind, Attempt.run_lift, Act.run_getOutside]
  simp only [hd]
  by_cases hk : driver.kind = .generic
  · have hr := run_record hd fun driver => do
      return (← Recorder.execute (links net driver) site (driver.bareCommand Command.quit)
        false).map fun _ => ()
    have hq : driver.quitCommand = driver.bareCommand Command.quit := if_pos (.inl hk)
    rw [if_pos hk, hq]
    exact congrArg Prod.snd hr
  · rw [if_neg hk]
    have hr := run_record hd fun driver => do
      let raw ← Connection.record (links net driver) site Command.quit (driver.withSession .null)
      return raw.bind (RawAnswer.completed driver.sessionId)
    rw [Attempt.run_discard]
    refine (congrArg Prod.snd hr).trans (congrArg (restored id) ?_)
    rw [Connection.record, commandOf_quit hk]
    rfl

/-! ## A driver departs -/

def quitAnswer (driver : Driver) (trail : Trail (Kit τ)) : Except Fault Response :=
  (((links net driver).send driver.quitCommand).result.run trail).1

/-- What a driver reports when it is stopped: first what is stashed, then, once its session has
been quit, the test that was running. -/
structure Departure (site : Callsite) (id : Nat) (driver : Driver)
    (start middle done : Trail (Kit τ)) : Prop where
  found : start.outside.drivers[id]? = some driver
  flushes : middle = restored id
    ((takenOut driver start).watch (links net driver) [.clearStash]).unwatched
  quits : done = restored id ((takenOut driver.emptied middle).watch (links net driver)
    [.execute site driver.quitCommand false]).unwatched
  /-- Each attempt in the stash is reported, in order. -/
  reported : List.Forall₂ Numbered.ReportedAs
    (driver.recorder.stash.attempts.map (Numbered.mk 0))
    (((takenOut driver start).watch (links net driver) [.clearStash]).events.filterMap
      Event.submission?)
  rested : middle.outside.drivers[id]? = some driver.emptied
  quit : ((takenOut driver.emptied middle).watch (links net driver)
    [.execute site driver.quitCommand false]).events =
      .sent driver.quitCommand (quitAnswer net driver middle) ::
        driver.recorder.closing site (quitAnswer net driver middle)
  left : ∃ recorder, done.outside.drivers[id]? = some { driver with recorder } ∧
    recorder.stash = []
  clients : middle.outside.clients.map (·.closed) = start.outside.clients.map (·.closed) ∧
    done.outside.clients.map (·.closed) = start.outside.clients.map (·.closed)

theorem restored_self {m : Moment (Kit τ)} (hd : m.trail.outside.drivers[id]? = some driver) :
    (restored id m).outside.drivers[id]? = some { driver with recorder := m.recorder } := by
  change (m.trail.outside.drivers.modify id _)[id]? = _
  rw [List.getElem?_modify_eq, hd]
  rfl

theorem departs (site : Callsite) (hd : trail.outside.drivers[id]? = some driver)
    (hs : driver.recorder.switches.allReported = true) :
    let middle := ((flush net id).run trail).2
    Departure net site id driver trail middle ((quitSession net site id).result.run middle).2 := by
  intro middle
  obtain ⟨hreported, hemptied⟩ :=
    Moment.flush_reports (links net driver) (takenOut driver trail) rfl hs
  have hm : middle = restored id ((takenOut driver trail).cleared (links net driver)) :=
    run_flush net hd
  have hk : standing id ((takenOut driver trail).cleared (links net driver)).trail.outside =
      standing id trail.outside :=
    Recorder.clearStash_keeps (links_standing net driver id) driver.recorder trail
  have hrested : middle.outside.drivers[id]? = some driver.emptied := by
    rw [hm, restored_self ((congrArg Prod.fst hk).trans hd), hemptied]
    rfl
  obtain ⟨hclosed, hstash⟩ := Moment.quit_closes (links net driver)
    (takenOut driver.emptied middle) rfl hs site driver.isQuit_quitCommand
  have hdone := run_quitSession net site hrested
  have hk' : standing id ((takenOut driver.emptied middle).performed (links net driver)
      (.execute site driver.quitCommand false)).trail.outside = standing id middle.outside :=
    Recorder.execute_keeps (links_standing net driver id) site driver.quitCommand false
      driver.emptied.recorder middle
  exact {
    found := hd
    flushes := by
      rw [Moment.unwatched_watch]
      exact hm
    quits := by
      rw [Moment.unwatched_watch]
      exact hdone
    reported := hreported
    rested := hrested
    quit := hclosed
    left := by
      have hl := restored_self ((congrArg Prod.fst hk').trans hrested)
      rw [hdone]
      exact ⟨_, hl, hstash⟩
    clients := by
      have hc : middle.outside.clients.map (·.closed) = trail.outside.clients.map (·.closed) := by
        rw [hm]
        exact congrArg Prod.snd hk
      rw [hdone]
      exact ⟨hc, (congrArg Prod.snd hk').trans hc⟩ }

/-! ## Other drivers -/

theorem standing_restored {other : Nat} (h : other ≠ id) (m : Moment (Kit τ)) :
    standing id (restored other m).outside = standing id m.trail.outside := by
  refine congrArg (·, _) ?_
  exact List.getElem?_modify_ne _ _ h

theorem flush_standing {other : Nat} (h : other ≠ id) : (flush net other).Keeps (standing id) := by
  intro trail
  cases hd : trail.outside.drivers[other]? with
  | none =>
    have hr := run_record_none hd fun driver => Recorder.clearStash (links net driver)
    exact congrArg (fun done => standing id done.2.outside) hr
  | some driver =>
    rw [run_flush net hd, standing_restored h]
    exact Recorder.clearStash_keeps (links_standing net driver id) driver.recorder trail

theorem stop_standing {other : Nat} (h : other ≠ id) (site : Callsite) :
    (stop net site other).Keeps (standing id) := by
  refine .seq (.lift (flush_standing net h)) fun _ => ?_
  intro trail
  cases hd : trail.outside.drivers[other]? with
  | none =>
    unfold quitSession
    rw [Attempt.run_bind, Attempt.run_lift, Act.run_getOutside]
    simp only [hd]
    rfl
  | some driver =>
    rw [run_quitSession net site hd, standing_restored h]
    exact Recorder.execute_keeps (links_standing net driver id) site _ false driver.recorder trail

/-! ## Ways to depart -/

/-- The ways in which a driver departs. -/
inductive Exit where
  | stop
  | quit
  | shutdown

namespace Exit

def take (site : Callsite) (id : Nat) : Exit → Act (Kit τ) Unit
  | stop => discard (Kit.stop net site id).result
  | quit => discard (Kit.quit net site id).result
  | shutdown => Kit.shutdownAll net site

/-- What is left to do when all drivers have departed: at shutdown, the hook of the client. -/
def ending (site : Callsite) (registry : Registry Nat Hook) : Exit → Act (Kit τ) Unit
  | stop => pure ()
  | quit => pure ()
  | shutdown => Registry.runClient (runHook net site) registry.client

end Exit

def IsOpen (kit : Kit τ) (n : Nat) : Prop := (kit.clients.map (·.closed))[n]? = some false

theorem answered_of_local (hk : driver.kind = .generic ∨ driver.kind.isMobile = true) :
    ∃ response, quitAnswer net driver trail = .ok response := by
  have hsends : ∃ response, ((links net driver).send driver.quitCommand).result.run trail =
      (.ok response, trail) := by
    by_cases hg : driver.kind = .generic
    · exact ⟨Response.done driver.quitCommand, by simp only [links, if_pos hg]; rfl⟩
    · refine ⟨Response.done driver.quitCommand, ?_⟩
      have hm : driver.kind.isMobile = true := hk.resolve_left hg
      have hskip : Connection.skips driver.connection.mobile driver.quitCommand = true := by
        rw [Connection.skips, driver.isQuit_quitCommand, Bool.and_true]
        exact hm
      have hsend : driver.connection.send net driver.quitCommand =
          pure (Response.done driver.quitCommand) := by
        rw [Connection.send, Connection.sendBy, if_pos hskip]
      simp only [links, if_neg hg, hsend]
      rfl
  obtain ⟨response, hr⟩ := hsends
  exact ⟨response, congrArg Prod.fst hr⟩

/-- From which trail a driver departs, and on which trail every driver has departed, when the
driver has done so on a given one. -/
inductive Reaches (site : Callsite) (id : Nat) (trail done : Trail (Kit τ)) :
    Exit → Trail (Kit τ) → Trail (Kit τ) → Prop where
  | stop : Reaches site id trail done .stop trail done
  | quit : Reaches site id trail done .quit
      { trail with outside := { trail.outside with
        registry := trail.outside.registry.removeDriver id } } done
  /-- Other drivers depart before this one, and after it. -/
  | shutdown {pre post : List Hook} {next : Trail (Kit τ)}
      (hooks : trail.outside.registry.drivers.map (·.2) = pre ++ .stopDriver id :: post)
      (hn : next.outside = done.outside) :
      Reaches site id trail done .shutdown
        ((Act.info "Closing driver gracefully...").run
          ((Registry.runDrivers (runHook net site) pre).run
            { trail with outside := { trail.outside with registry := {} } }).2).2
        ((Registry.runDrivers (runHook net site) post).run next).2

/-- Nothing but the driver itself changes the driver on the way, or closes a client. -/
theorem exit_reaches (exit : Exit) (site : Callsite)
    (hr : exit = .shutdown →
      Enlists trail.outside.registry ∧ trail.outside.registry.hasDriver id = true) :
    ∃ start calm : Trail (Kit τ),
      Reaches net site id trail ((stop net site id).result.run start).2 exit start calm ∧
      standing id start.outside = standing id trail.outside ∧
      standing id calm.outside = standing id ((stop net site id).result.run start).2.outside ∧
      ((exit.take net site id).run trail).2 =
        ((exit.ending net site trail.outside.registry).run calm).2 := by
  cases exit with
  | stop => exact ⟨trail, _, .stop, rfl, rfl, rfl⟩
  | quit => exact ⟨_, _, .quit, rfl, rfl, rfl⟩
  | shutdown =>
    obtain ⟨he, hi⟩ := hr rfl
    obtain ⟨pre, post, hsplit, hothers⟩ := he.split hi
    have hkeeps (hook : Hook) (hh : hook ∈ pre ++ post) :
        (runHook net site hook).Keeps (standing id) := by
      obtain ⟨other, ho, rfl⟩ := hothers hook hh
      exact stop_standing net ho site
    let emptied := { trail with outside := { trail.outside with registry := {} } }
    have hpre := Registry.runDrivers_keeps fun hook hh => hkeeps hook (List.mem_append_left _ hh)
    have hpost := Registry.runDrivers_keeps fun hook hh => hkeeps hook (List.mem_append_right _ hh)
    obtain ⟨next, hnext, hrun⟩ := Registry.run_runDrivers_cons (runHook net site) (.stopDriver id)
      post ((Registry.runDrivers (runHook net site) pre).run emptied).2
    refine ⟨_, _, .shutdown hsplit hnext, hpre emptied,
      (hpost next).trans (congrArg (standing id) hnext), ?_⟩
    have hdrivers : ((Registry.runDrivers (runHook net site)
        (trail.outside.registry.drivers.map (·.2))).run emptied).2 =
          ((Registry.runDrivers (runHook net site) post).run next).2 := by
      rw [hsplit, Registry.run_runDrivers_append, hrun]
    rw [← hdrivers]
    rfl

theorem Exit.ending_keeps (exit : Exit) (site : Callsite) {registry : Registry Nat Hook}
    (hr : exit = .shutdown → Enlists registry ∧ registry.hasDriver id = true) :
    (exit.ending net site registry).Keeps fun kit => kit.drivers[id]? := by
  cases exit with
  | stop => exact .answer _
  | quit => exact .answer _
  | shutdown =>
    refine Registry.runClient_keeps fun hook hc trail => ?_
    obtain ⟨n, rfl⟩ := (hr rfl).1.client hook hc
    exact congrArg (·[id]?) (run_closeClient net true n trail).drivers

/-- A driver that departs, and the trails between which it reports: `calm` is the one on which
every driver has departed. -/
structure Departs (exit : Exit) (site : Callsite) (id : Nat) (driver : Driver)
    (trail start middle done calm : Trail (Kit τ)) : Prop where
  departure : Departure net site id driver start middle done
  reaches : Reaches net site id trail done exit start calm
  isOpen : ∀ t ∈ [start, middle, done, calm], IsOpen t.outside driver.client
  ending : ((exit.take net site id).run trail).2 =
    ((exit.ending net site trail.outside.registry).run calm).2
  emptied : ∃ recorder, ((exit.take net site id).run trail).2.outside.drivers[id]? =
    some { driver with recorder } ∧ recorder.stash = []
  closed_iff : ∀ test, driver.recorder.currentTest = some test →
    (driver.recorder.closing site (quitAnswer net driver middle) =
        [.handed (.test { name := test })] ↔
      (∃ response, quitAnswer net driver middle = .ok response) ∧
        ¬(test = "" ∧ Naming.test site = none))
  answered : driver.kind = .generic ∨ driver.kind.isMobile = true →
    ∃ response, quitAnswer net driver middle = .ok response

/-- However a driver departs, what it stashed and the test that it was running are reported
while its client is open. The test is closed unless the automation server fails to quit, or
neither the test nor the call site has a name. -/
theorem departs_on_exit (exit : Exit) (site : Callsite)
    (hd : trail.outside.drivers[id]? = some driver)
    (hs : driver.recorder.switches.allReported = true)
    (ho : IsOpen trail.outside driver.client)
    (hr : exit = .shutdown →
      Enlists trail.outside.registry ∧ trail.outside.registry.hasDriver id = true) :
    ∃ start middle done calm, Departs net exit site id driver trail start middle done calm := by
  obtain ⟨start, calm, hreaches, hstart, hcalm, hend⟩ := exit_reaches net exit site hr
  have hdep := departs net site ((congrArg Prod.fst hstart).trans hd) hs
  have hflags : start.outside.clients.map (·.closed) = trail.outside.clients.map (·.closed) :=
    congrArg Prod.snd hstart
  refine ⟨start, _, _, calm, {
    departure := hdep
    reaches := hreaches
    isOpen := ?_
    ending := hend
    emptied := ?_
    closed_iff := fun test ht => Recorder.closing_iff ht site _
    answered := answered_of_local net }⟩
  · simp only [List.mem_cons, List.not_mem_nil, or_false, forall_eq_or_imp, forall_eq, IsOpen]
    have hcalm : calm.outside.clients.map (·.closed) = start.outside.clients.map (·.closed) :=
      (congrArg Prod.snd hcalm).trans hdep.clients.2
    rw [hcalm, hdep.clients.1, hdep.clients.2, hflags]
    exact ⟨ho, ho, ho, ho⟩
  · obtain ⟨recorder, hl, hstash⟩ := hdep.left
    refine ⟨recorder, ?_, hstash⟩
    rw [hend]
    exact (exit.ending_keeps net site hr calm).trans ((congrArg Prod.fst hcalm).trans hl)

def serving (answer : Except Fault Value) : Network Unit where
  http _ := return .error (.transfer .connect "refused")
  automate _ := return answer
  openSocket _ _ := return ()
  closeSocket := return ()

def openClient : Client :=
  { channel := { address := "http://localhost:8585", token := "t" }, config := {}
    settings := some {}, version := .null, localReport := .null, worker := some {}
    session := { address := .null, id := .str "session-1", dialect := none, capabilities := [] } }

def driverInTest : Driver :=
  { kind := .browser .chrome, request := { capabilities := [] }, client := 0
    address := "http://localhost:4444", sessionId := .str "session-1"
    recorder := { currentTest := some "test_a" } }

def kitInTest : Trail (Kit Unit) :=
  { outside := {
      world := (), clients := [openClient], drivers := [driverInTest]
      registry := (({} : Registry Nat Hook).addDriver 0 (.stopDriver 0)).setClient
        (.closeClient 0) } }

theorem driver_departs_at_shutdown :
    let net := serving (.ok .null)
    let site := Callsite.within [.inTest "test_a"]
    kitInTest.outside.drivers[0]? = some driverInTest ∧
      driverInTest.recorder.switches.allReported = true ∧
      IsOpen kitInTest.outside driverInTest.client ∧ Enlists kitInTest.outside.registry ∧
      kitInTest.outside.registry.hasDriver 0 = true ∧ ∃ start middle done calm,
        Departs net .shutdown site 0 driverInTest kitInTest start middle done calm := by
  intro net site
  have he : Enlists kitInTest.outside.registry :=
    enlists_enrolments [.addDriver 0, .setClient 0]
  exact ⟨rfl, rfl, rfl, he, rfl, departs_on_exit net .shutdown site rfl rfl rfl fun _ => ⟨he, rfl⟩⟩

/-- When the browser has crashed, no way out reports the running test. -/
theorem crashed_browser_leaves_test_open :
    let net := serving (.error (.foreign .connection "gone"))
    let site := Callsite.within [.inTest "test_a"]
    driverInTest.recorder.switches.allReported = true ∧
      IsOpen kitInTest.outside driverInTest.client ∧
      driverInTest.recorder.currentTest = some "test_a" ∧
      ∀ exit ∈ [Exit.stop, .quit, .shutdown],
        ((exit.take net site 0).run kitInTest).2.outside.clients.map
          (fun client => client.worker.map (·.outbox.waiting)) = [some []] := by
  intro net site
  refine ⟨rfl, rfl, rfl, fun exit _ => ?_⟩
  cases exit with
  | stop => rfl
  | quit => rfl
  | shutdown => rfl

end Kit

end AgentReporting
