import AgentReporting.Proofs.Kit.Demands
import AgentReporting.Proofs.Kit.Holding
import Mathlib.Data.List.Induction

/-! # The liveness connection of a kit

The connection is closed with the open client, unless another client is to continue under
the same names. If that one cannot be started, the connection stays open without a client
until one is got again: no client that could still close it is open.
-/

namespace AgentReporting

variable {σ τ α ρ : Type}

namespace Kit

/-! ## A connection without a client -/

/-- No client is open, but the connection is. -/
structure Stranded (connected : σ → Bool) (kit : Kit σ) : Prop where
  idle : Idle kit
  connected : connected kit.world = true

/-- The open client has made way for another one, with its connection kept. -/
structure MakesWay (connected : σ → Bool) (site : Callsite) (request : ClientRequest)
    (before after : Kit σ) : Prop where
  connected : connected before.world = true
  keeps : ∃ (id : Nat) (client ended : Client), before.cached = some id ∧
    before.clients[id]? = some client ∧ client.closed = false ∧
      after.clients[id]? = some ended ∧ ended.closed = true ∧
        ((keepsSocket site client request).result.run { outside := before }).1 = .ok true

variable {connected : σ → Bool} {before after : Kit σ} {site : Callsite}
  {request : ClientRequest}

theorem stranded_congr (hi : Idle after ↔ Idle before)
    (hw : connected after.world = connected before.world) :
    Stranded connected after ↔ Stranded connected before := by
  constructor
  · rintro ⟨h, hc⟩
    exact ⟨hi.mp h, hw ▸ hc⟩
  · rintro ⟨h, hc⟩
    exact ⟨hi.mpr h, hw ▸ hc⟩

theorem MakesWay.changes (h : MakesWay connected site request before after) :
    after.clients ≠ before.clients := by
  intro heq
  obtain ⟨id, client, ended, -, hi, ho, he, hc, -⟩ := h.keeps
  rw [heq, hi] at he
  cases he
  rw [hc] at ho
  cases ho

theorem makesWay_iff {id : Nat} {client ended : Client} (hc : before.cached = some id)
    (hi : before.clients[id]? = some client) (ho : client.closed = false)
    (he : after.clients[id]? = some ended) (hended : ended.closed = true) :
    MakesWay connected site request before after ↔
      connected before.world = true ∧
        ((keepsSocket site client request).result.run { outside := before }).1 = .ok true := by
  constructor
  · rintro ⟨hw, other, client', _, hc', hi', -, -, -, hk⟩
    obtain rfl : id = other := Option.some.inj (hc.symm.trans hc')
    obtain rfl : client = client' := Option.some.inj (hi.symm.trans hi')
    exact ⟨hw, hk⟩
  · rintro ⟨hw, hk⟩
    exact ⟨hw, id, client, ended, hc, hi, ho, he, hended, hk⟩

theorem updateClient_keeps {view : σ → ρ} {f : Client → Act σ (Client × α)}
    (hf : ∀ client, (f client).Keeps view) (id : Nat) :
    (updateClient id f).Keeps fun kit => view kit.world := by
  intro trail
  rw [run_updateClient]
  split
  · rfl
  · exact hf _ _

theorem settle_keeps {net : Network σ} {view : σ → ρ} (hnet : net.Spares view) :
    (settle net).Keeps fun kit => view kit.world := by
  have hids (ids : List Nat) : Act.Keeps (fun kit : Kit σ => view kit.world)
      (ids.forM fun id => discard
        (updateClient id fun client => return (← client.settle net, ()))) := by
    induction ids with
    | nil => exact .answer _
    | cons id rest ih =>
      have hid := updateClient_keeps (fun client =>
        .seq (client.settle_keeps hnet.prompt) fun settled => .answer (settled, ())) id
      exact .seq hid fun _ => ih
  exact .seq (fun _ => rfl) fun _ => hids _

/-- A client that makes way without its connection leaves what no request can reach. -/
theorem Ends.view_eq {net : Network σ} {view : σ → ρ} (hnet : net.Spares view) {id : Nat}
    (h : Ends net false id before after) : view after.world = view before.world := by
  cases h with
  | idle => rfl
  | @ended client _ trail _ ho ht =>
    have hkept : view ((client.close net false).run trail).2.outside = view trail.outside :=
      Client.view_close hnet.prompt (f := fun v => v) ho
        (fun h => absurd h Bool.false_ne_true) trail
    exact ht ▸ hkept

section

variable {net : Network σ} (hnet : net.Holds connected)

include hnet

/-! ## What a demand does to it -/

theorem Ends.stranded_iff {id : Nat} (h : Ends net true id before after) :
    Stranded connected after ↔ Stranded connected before := by
  cases h with
  | idle => exact .rfl
  | @ended client _ trail hi ho ht =>
    refine iff_of_false (fun hs => ?_) fun hs => hs.idle.not_open hi ho
    have hc := hs.connected
    rw [client.close_disconnects hnet ho trail] at hc
    cases hc

theorem Clears.stranded_iff (h : Clears net before after) :
    Stranded connected after ↔ Stranded connected before := by
  cases h with
  | nobody => exact stranded_congr .rfl rfl
  | client _ h => exact (h.stranded_iff hnet).trans (stranded_congr .rfl rfl)

theorem ShutsDown.stranded_iff (h : ShutsDown net before after) :
    Stranded connected after ↔ Stranded connected before := by
  cases h with
  | nobody => exact stranded_congr .rfl rfl
  | client _ h => exact (h.stranded_iff hnet).trans (stranded_congr .rfl rfl)

/-! ## What a request for a client does to it -/

theorem Retires.stranded_iff (hs : Single before) (h : Retires net site request before after) :
    Stranded connected after ↔
      Stranded connected before ∨ MakesWay connected site request before after := by
  have hidle := (hs.retires h).2
  cases h with
  | nobody => exact ⟨.inl, fun h => h.resolve_right fun hm => hm.changes rfl⟩
  | @client id client keep trail _ hc hi hk h =>
    have hkeep : ((keepsSocket site client request).result.run { outside := before }).1 =
        .ok keep := (Act.Quiet.same (keepsSocket_quiet site client request) _ _).trans hk
    cases ho : client.closed with
    | true =>
      -- a client that is closed already stays as it is, and so does the connection
      have hb := hs.idle_of_closed hc hi ho
      cases h with
      | idle =>
        refine ⟨fun h => .inl ⟨hb, h.connected⟩, ?_⟩
        rintro (h | h)
        · exact ⟨hb, h.connected⟩
        · exact absurd rfl h.changes
      | ended hi' ho' => exact (hb.not_open hi' ho').elim
    | false =>
      have hopen : ¬ Stranded connected before := fun h => h.idle.not_open hi ho
      obtain ⟨ended, he, hended⟩ := h.ends hi
      rw [makesWay_iff hc hi ho he hended, hkeep, or_iff_right hopen]
      cases keep with
      | true =>
        have hsame := h.view_eq hnet.spares
        exact ⟨fun h' => ⟨hsame ▸ h'.connected, rfl⟩, fun h' => ⟨hidle, hsame.trans h'.1⟩⟩
      | false =>
        have hends : Stranded connected after ↔ Stranded connected before :=
          (h.stranded_iff hnet).trans (stranded_congr .rfl rfl)
        exact iff_of_false (fun h' => hopen (hends.mp h')) fun h' => nomatch h'.2

theorem Serves.stranded_iff {trail : Trail (Kit σ)} (hs : Single trail.outside) {fault : Fault}
    (h : Serves net site request trail (.error fault) after) :
    Stranded connected after ↔
      Stranded connected trail.outside ∨
        MakesWay connected site request trail.outside after := by
  cases h with
  | refused => exact ⟨.inl, fun h => h.resolve_right fun hm => hm.changes rfl⟩
  | renewed _ _ h =>
    cases h with
    | unnamed => exact ⟨.inl, fun h => h.resolve_right fun hm => hm.changes rfl⟩
    | @failed retired _ _ hr ht hstart =>
      have hreverts := Client.start_reverts hnet site _ _ _ _ _ _ hstart
      rw [ht] at hreverts
      refine Iff.trans (b := Stranded connected retired) ?_ ?_
      · exact stranded_congr .rfl hreverts
      · refine (hr.stranded_iff hnet hs).trans (or_congr_right ?_)
        exact ⟨fun ⟨hc, hk⟩ => ⟨hc, hk⟩, fun ⟨hc, hk⟩ => ⟨hc, hk⟩⟩

end

end Kit

/-! ## Every history -/

def Demand.Gets (net : Network σ) (trail : Trail (Kit σ)) : Demand → Prop
  | getClient site request =>
    ∃ got, ((Kit.getClient net site request).result.run trail).1 = .ok got
  | _ => False

def Demand.Replaces (net : Network σ) (connected : σ → Bool) (trail : Trail (Kit σ)) :
    Demand → Prop
  | getClient site request => Kit.MakesWay connected site request trail.outside
      ((Kit.getClient net site request).result.run trail).2.outside
  | _ => False

namespace Kit

/-- Histories that leave the connection open without a client: the open client made way with its
connection kept, the one that was to continue could not be started, and none was got since. -/
inductive Strands (net : Network σ) (connected : σ → Bool) (start : Trail (Kit σ)) :
    List Demand → Prop where
  | lost {earlier : List Demand} {demand : Demand}
      (hf : ¬ demand.Gets net (meets net start earlier))
      (h : demand.Replaces net connected (meets net start earlier)) :
      Strands net connected start (earlier ++ [demand])
  | still {earlier : List Demand} {demand : Demand}
      (hf : ¬ demand.Gets net (meets net start earlier))
      (h : Strands net connected start earlier) :
      Strands net connected start (earlier ++ [demand])

variable {net : Network σ} {connected : σ → Bool}

theorem strands_append_singleton {start : Trail (Kit σ)} {earlier : List Demand}
    {demand : Demand} :
    Strands net connected start (earlier ++ [demand]) ↔
      ¬ demand.Gets net (meets net start earlier) ∧
        (Strands net connected start earlier ∨
          demand.Replaces net connected (meets net start earlier)) := by
  constructor
  · intro h
    generalize heq : earlier ++ [demand] = demands at h
    cases h with
    | lost hf h =>
      obtain ⟨rfl, hd⟩ := List.append_inj' heq rfl
      cases hd
      exact ⟨hf, .inr h⟩
    | still hf h =>
      obtain ⟨rfl, hd⟩ := List.append_inj' heq rfl
      cases hd
      exact ⟨hf, .inl h⟩
  · rintro ⟨hf, h | h⟩
    · exact .still hf h
    · exact .lost hf h

/-- One demand strands the connection only if it is for a client, and none is got. -/
theorem stranded_meet_iff (hnet : net.Holds connected) (demand : Demand) (trail : Trail (Kit σ))
    (hs : Single trail.outside) :
    Stranded connected ((demand.meet net).run trail).2.outside ↔
      ¬ demand.Gets net trail ∧
        (Stranded connected trail.outside ∨ demand.Replaces net connected trail) := by
  have hother {kit : Kit σ} (h : Stranded connected kit ↔ Stranded connected trail.outside) :
      Stranded connected kit ↔ ¬ False ∧ (Stranded connected trail.outside ∨ False) := by
    simpa using h
  cases demand with
  | getClient site request =>
    have hserves := getClient_serves net site request trail
    change Stranded connected ((getClient net site request).result.run trail).2.outside ↔
      ¬ (∃ got, ((getClient net site request).result.run trail).1 = .ok got) ∧
        (_ ∨ MakesWay connected site request trail.outside
          ((getClient net site request).result.run trail).2.outside)
    generalize (getClient net site request).result.run trail = done at hserves ⊢
    obtain ⟨answer, after⟩ := done
    cases answer with
    | ok got =>
      obtain ⟨hi, ho⟩ := hserves.isOpen
      exact iff_of_false (fun h => h.idle.not_open hi ho) fun h => h.1 ⟨got, rfl⟩
    | error fault =>
      rw [hserves.stranded_iff hnet hs]
      exact ⟨fun h => ⟨(fun ⟨_, hg⟩ => nomatch hg), h⟩, fun h => h.2⟩
  | close id => exact hother ((run_closeClient net true id trail).stranded_iff hnet)
  | clear => exact hother ((run_clear net trail).stranded_iff hnet)
  | shutdown site => exact hother ((run_shutdownAll net site trail hs).stranded_iff hnet)
  | report id content =>
    exact hother (stranded_congr (report_persists id content trail).idle_iff
      (updateClient_keeps (fun client => .answer (client.submit content)) id trail))
  | hold held id =>
    exact hother (stranded_congr (hold_persists held id trail).idle_iff
      (updateClient_keeps (fun client => .answer (client.hold held, ())) id trail))
  | settle =>
    exact hother (stranded_congr (settle_persists net trail).idle_iff
      (settle_keeps hnet.spares trail))

/-- The connection is open without an open client exactly after the histories that strand it. -/
theorem stranded_meets_iff (hnet : net.Holds connected) (start : Trail (Kit σ))
    (hs : Single start.outside) (hstart : ¬ Stranded connected start.outside)
    (demands : List Demand) :
    Stranded connected (meets net start demands).outside ↔ Strands net connected start demands := by
  induction demands using List.reverseRecOn with
  | nil =>
    refine iff_of_false hstart fun h => ?_
    generalize heq : [] = demands at h
    cases h <;> exact absurd heq.symm (by simp)
  | append_singleton earlier demand ih =>
    have hmeet := stranded_meet_iff hnet demand (meets net start earlier)
      (single_meets net earlier start hs)
    rw [strands_append_singleton, ← ih]
    rw [meets_append, meets_cons, meets_nil]
    exact hmeet

/-- After any history the connection is closed when no client is open, and so it is when the
kit has been cleared or shut down, unless the history strands the connection. -/
theorem connection_stranded_iff (http : HttpRequest → StateM τ (Except Fault HttpAnswer))
    (automate : WireCommand → StateM τ (Except Fault Value))
    (dial : String → Int → Act τ (Option String)) (hangUp : Act τ (Option String)) (world : τ)
    (demands : List Demand) :
    let net := Network.live http automate dial hangUp
    let connected (held : Network.Held τ) := held.liveness.isOpen
    let trail := meets net (opening { world }) demands
    let cleared := ((clear net).run trail).2.outside
    (Stranded connected trail.outside ↔ Strands net connected (opening { world }) demands) ∧
    (Idle cleared ∧
      (connected cleared.world = true ↔ Strands net connected (opening { world }) demands)) ∧
    ∀ site,
      let shut := ((shutdownAll net site).run trail).2.outside
      Idle shut ∧
        (connected shut.world = true ↔ Strands net connected (opening { world }) demands) := by
  intro net connected trail cleared
  have hnet : net.Holds connected := Network.live_holds http automate dial hangUp
  have hstart : Single (opening (τ := Network.Held τ) { world }).outside := single_opening _
  have hs : Single trail.outside := single_meets net demands _ hstart
  have hstranded : Stranded connected trail.outside ↔
      Strands net connected (opening { world }) demands :=
    stranded_meets_iff hnet _ hstart (fun h => nomatch h.connected) demands
  have hidle {kit : Kit (Network.Held τ)} (hi : Idle kit)
      (h : Stranded connected kit ↔ Stranded connected trail.outside) :
      connected kit.world = true ↔ Strands net connected (opening { world }) demands :=
    Iff.trans ⟨fun hc => ⟨hi, hc⟩, fun h => h.connected⟩ (h.trans hstranded)
  have hclears := run_clear net trail
  have hcleared : Idle cleared := (hs.clears hclears).2
  refine ⟨hstranded, ⟨hcleared, hidle hcleared (hclears.stranded_iff hnet)⟩, ?_⟩
  intro site shut
  have hshuts := run_shutdownAll net site trail hs
  have hshut : Idle shut := (hs.shutsDown hshuts).2
  exact ⟨hshut, hidle hshut (hshuts.stranded_iff hnet)⟩

def answering : Network (Network.Held (List HttpAnswer)) :=
  .live
    (fun _ answers =>
      match answers with
      | [] => (.error (.transfer .connect "refused"), [])
      | answer :: rest => (.ok answer, rest))
    (fun _ => return .ok .null) (fun _ _ => return none) (return none)

/-- A client is replaced under the same names, and the Agent refuses the token of the next one. -/
theorem refused_replacement_strands :
    let site : Callsite := { directory := { absolute := true, parts := [] } }
    let request (id : String) : ClientRequest :=
      { capabilities := [(trackingKey, .str id)], token := some "t", config := some {}
        settings := some { project := some "p", job := some "j" } }
    let granted : HttpAnswer := ⟨200,
      "\x7b\"capabilities\": \x7b\x7d, \"version\": \"0.64.32\", \"devSocketPort\": 5000\x7d"⟩
    let demands : List Demand :=
      [.getClient site (request "a"), .getClient site (request "b"), .clear, .shutdown site]
    let kit := (meets answering (opening { world := [granted, ⟨401, ""⟩] }) demands).outside
    kit.clients.map (·.closed) = [true] ∧
      Stranded (fun held => held.liveness.isOpen) kit := by
  intro site request granted demands kit
  have hclosed : kit.clients.map (·.closed) = [true] := by decide +kernel
  refine ⟨hclosed, ⟨?_, by decide +kernel⟩⟩
  intro id client hi
  have hmem := List.mem_map_of_mem (f := (·.closed)) (List.mem_of_getElem? hi)
  rw [hclosed] at hmem
  exact List.mem_singleton.mp hmem

end Kit

end AgentReporting
