import AgentReporting.Kit.Drivers
import AgentReporting.Proofs.Kit.Renewal
import Mathlib.Tactic.ByContra

/-! # The clients of a kit

A kit without drivers is asked for clients, to close them, to forget the cached one and to
shut down, while reports come in and are sent. In every order at most one client is open:
the cached one, which the hook of the registry closes.
-/

namespace AgentReporting

variable {τ α : Type}

/-- What is asked of a kit without drivers. -/
inductive Demand where
  | getClient (site : Callsite) (request : ClientRequest)
  | close (id : Nat)
  | clear
  | shutdown (site : Callsite)
  | report (id : Nat) (content : Report)
  | hold (held : Bool) (id : Nat)
  /-- The consumers do all they can. -/
  | settle

namespace Demand

def meet (net : Network τ) : Demand → Act (Kit τ) Unit
  | getClient site request => discard (Kit.getClient net site request).result
  | close id => Kit.closeClient net true id
  | clear => Kit.clear net
  | shutdown site => Kit.shutdownAll net site
  | report id content => discard (Kit.report id content)
  | hold held id => Kit.hold held id
  | settle => Kit.settle net

end Demand

namespace Kit

def opening (world : τ) : Trail (Kit τ) := { outside := { world } }

def meets (net : Network τ) (trail : Trail (Kit τ)) (demands : List Demand) : Trail (Kit τ) :=
  demands.foldl (fun trail demand => ((demand.meet net).run trail).2) trail

@[simp] theorem meets_nil (net : Network τ) (trail : Trail (Kit τ)) :
    meets net trail [] = trail := rfl

@[simp] theorem meets_cons (net : Network τ) (trail : Trail (Kit τ)) (demand : Demand)
    (rest : List Demand) :
    meets net trail (demand :: rest) = meets net ((demand.meet net).run trail).2 rest := rfl

@[simp] theorem meets_append (net : Network τ) (trail : Trail (Kit τ)) (xs ys : List Demand) :
    meets net trail (xs ++ ys) = meets net (meets net trail xs) ys :=
  List.foldl_append

/-! ## Clients that go on -/

structure Persists (before after : Kit τ) : Prop where
  clients : ∀ (id : Nat) (client : Client), after.clients[id]? = some client →
    ∃ old : Client, before.clients[id]? = some old ∧ old.Continues client
  length : after.clients.length = before.clients.length
  cached : after.cached = before.cached
  registry : after.registry = before.registry

theorem Persists.refl (kit : Kit τ) : Persists kit kit :=
  ⟨fun _ client h => ⟨client, h, .refl client⟩, rfl, rfl, rfl⟩

theorem Persists.trans {first second third : Kit τ} (h : Persists first second)
    (h' : Persists second third) : Persists first third := by
  refine ⟨?_, h'.length.trans h.length, h'.cached.trans h.cached, h'.registry.trans h.registry⟩
  intro id client hi
  obtain ⟨middle, hm, hc⟩ := h'.clients id client hi
  obtain ⟨old, ho, hc'⟩ := h.clients id middle hm
  exact ⟨old, ho, hc'.trans hc⟩

theorem updateClient_persists {f : Client → Act τ (Client × α)}
    (hf : ∀ client, (f client).Gives fun done => client.Continues done.1) (id : Nat)
    (trail : Trail (Kit τ)) :
    Persists trail.outside ((updateClient id f).run trail).2.outside := by
  rw [run_updateClient]
  cases hi : trail.outside.clients[id]? with
  | none => exact .refl _
  | some client =>
    refine ⟨?_, List.length_set, rfl, rfl⟩
    intro other client' ho
    rw [List.getElem?_set] at ho
    split at ho
    · rename_i heq
      subst heq
      split at ho
      · cases ho
        exact ⟨client, hi, hf client _⟩
      · cases ho
    · exact ⟨client', ho, .refl client'⟩

theorem report_persists (id : Nat) (report : Report) (trail : Trail (Kit τ)) :
    Persists trail.outside ((Kit.report id report).run trail).2.outside :=
  updateClient_persists
    (fun client => .answer (a := client.submit report) (client.submit_continues report)) id trail

theorem hold_persists (held : Bool) (id : Nat) (trail : Trail (Kit τ)) :
    Persists trail.outside ((Kit.hold held id).run trail).2.outside :=
  updateClient_persists
    (fun client => .answer (a := (client.hold held, ())) (client.continues_worker _)) id trail

theorem settle_persists (net : Network τ) (trail : Trail (Kit τ)) :
    Persists trail.outside ((Kit.settle net).run trail).2.outside := by
  have hids (ids : List Nat) (trail : Trail (Kit τ)) : Persists trail.outside
      ((ids.forM fun id => discard
        (updateClient id fun client => return (← client.settle net, ())) :
        Act (Kit τ) Unit).run trail).2.outside := by
    induction ids generalizing trail with
    | nil => exact .refl _
    | cons id rest ih =>
      have hid := updateClient_persists (fun client =>
        .seq (client.settle_continues net) fun settled hs =>
          .answer (a := (settled, ())) hs) id trail
      exact hid.trans (ih _)
  exact hids _ trail

/-! ## At most one client is open -/

def Idle (kit : Kit τ) : Prop :=
  ∀ (id : Nat) (client : Client), kit.clients[id]? = some client → client.closed = true

/-- A client that is open is the cached one, and the hook of the registry closes it. -/
structure Single (kit : Kit τ) : Prop where
  current : ∀ (id : Nat) (client : Client), kit.clients[id]? = some client →
    client.closed = false → kit.cached = some id ∧ kit.registry.client = some (.closeClient id)
  known : ∀ id, kit.cached = some id → id < kit.clients.length
  hook : ∀ hook, kit.registry.client = some hook → ∃ id, hook = .closeClient id
  noDrivers : kit.registry.drivers = []

variable {net : Network τ} {before after : Kit τ}

theorem Idle.not_open (hi : Idle before) {id : Nat} {client : Client}
    (hc : before.clients[id]? = some client) (ho : client.closed = false) : False := by
  rw [hi id client hc] at ho
  cases ho

theorem Persists.idle_iff (h : Persists before after) : Idle after ↔ Idle before := by
  constructor
  · intro hi id client hb
    have hlt := (List.getElem?_eq_some_iff.mp hb).1
    have ha := List.getElem?_eq_getElem (h.length ▸ hlt)
    obtain ⟨old, hold, hc⟩ := h.clients id _ ha
    rw [hb] at hold
    cases hold
    exact hc.closed ▸ hi id _ ha
  · intro hi id client ha
    obtain ⟨old, hold, hc⟩ := h.clients id client ha
    exact hc.closed.trans (hi id old hold)

theorem Idle.single (h : Idle after) (hk : ∀ id, after.cached = some id → id < after.clients.length)
    (hh : ∀ hook, after.registry.client = some hook → ∃ id, hook = .closeClient id)
    (hd : after.registry.drivers = []) : Single after := by
  refine ⟨?_, hk, hh, hd⟩
  intro id client hi ho
  exact (h.not_open hi ho).elim

theorem Ends.leaves_idle {closeSocket : Bool} {id : Nat} (h : Ends net closeSocket id before after)
    (honly : ∀ (other : Nat) (client : Client), before.clients[other]? = some client →
      client.closed = false → other = id) : Idle after := by
  intro other client hi
  by_contra ho
  obtain ⟨hne, hb⟩ := h.open_before hi (Bool.eq_false_iff.mpr ho)
  exact hne (honly other client hb (Bool.eq_false_iff.mpr ho))

namespace Single

variable (hs : Single before)

include hs

theorem persists (h : Persists before after) : Single after := by
  constructor
  · intro id client hi ho
    obtain ⟨old, hold, hc⟩ := h.clients id client hi
    rw [h.cached, h.registry]
    exact hs.current id old hold (hc.closed ▸ ho)
  · intro id hc
    rw [h.length]
    exact hs.known id (h.cached ▸ hc)
  · exact h.registry ▸ hs.hook
  · exact h.registry ▸ hs.noDrivers

theorem ends {closeSocket : Bool} {id : Nat} (h : Ends net closeSocket id before after) :
    Single after := by
  constructor
  · intro other client hi ho
    rw [h.cached, h.registry]
    exact hs.current other client (h.open_before hi ho).2 ho
  · intro other hc
    rw [h.length]
    exact hs.known other (h.cached ▸ hc)
  · exact h.registry ▸ hs.hook
  · exact h.registry ▸ hs.noDrivers

theorem only {id other : Nat} {client : Client} (hc : before.cached = some id)
    (hi : before.clients[other]? = some client) (ho : client.closed = false) : other = id :=
  Option.some.inj ((hs.current other client hi ho).1.symm.trans hc)

theorem idle_of_cached (hc : before.cached.bind (before.clients[·]?) = none) : Idle before := by
  intro id client hi
  by_contra ho
  rw [(hs.current id client hi (Bool.eq_false_iff.mpr ho)).1, Option.bind_some, hi] at hc
  cases hc

theorem idle_of_closed {id : Nat} {client : Client}
    (hc : before.cached = some id) (hi : before.clients[id]? = some client)
    (ho : client.closed = true) : Idle before := by
  intro other client' hother
  by_contra hopen
  obtain rfl := hs.only hc hother (Bool.eq_false_iff.mpr hopen)
  rw [hi] at hother
  cases hother
  exact hopen ho

theorem retires {site : Callsite} {request : ClientRequest}
    (h : Retires net site request before after) : Single after ∧ Idle after := by
  cases h with
  | nobody h => exact ⟨hs, hs.idle_of_cached h⟩
  | @client id client keep trail _ hc hi hk h =>
    have hidle : Idle after := h.leaves_idle fun _ _ => hs.only hc
    refine ⟨hidle.single ?_ ?_ ?_, hidle⟩
    · intro other hother
      rw [h.length]
      exact hs.known other (h.cached ▸ hother)
    · intro hook hhook
      rw [h.registry] at hhook
      cases hhook
    · rw [h.registry]
      exact hs.noDrivers

theorem renews {site : Callsite} {config : Config} {address token : String}
    {request : ClientRequest} {answer : Except Fault (Nat × Client)}
    (h : Renews net site config address token request before answer after) : Single after := by
  cases h with
  | unnamed => exact hs
  | failed hr =>
    obtain ⟨h, -⟩ := hs.retires hr
    exact ⟨h.current, h.known, h.hook, h.noDrivers⟩
  | @started retired client trail hr =>
    obtain ⟨h, hidle⟩ := hs.retires hr
    constructor
    · intro id other hi ho
      rw [List.getElem?_append] at hi
      split at hi
      · exact (hidle.not_open hi ho).elim
      · rename_i hlt
        have hlen := (List.getElem?_eq_some_iff.mp hi).1
        rw [List.length_singleton] at hlen
        obtain rfl : id = retired.clients.length := by omega
        exact ⟨rfl, rfl⟩
    · intro id hc
      cases hc
      simp
    · rintro hook hh
      cases hh
      exact ⟨_, rfl⟩
    · exact h.noDrivers

end Single

/-! ## The cached client is forgotten -/

inductive Clears (net : Network τ) (before : Kit τ) : Kit τ → Prop where
  | nobody (h : before.cached = none) : Clears net before { before with cached := none }
  | client {id : Nat} {after : Kit τ} (hc : before.cached = some id)
      (h : Ends net true id
        { before with cached := none, registry := before.registry.removeClient } after) :
      Clears net before after

theorem run_clear (net : Network τ) (trail : Trail (Kit τ)) :
    Clears net trail.outside ((clear net).run trail).2.outside := by
  unfold clear
  rw [Act.run_bind, Act.run_getOutside, Act.run_bind]
  cases hc : trail.outside.cached with
  | none => exact .nobody hc
  | some id =>
    have h := run_closeClient net true id
      { trail with outside := { trail.outside with
        cached := none, registry := trail.outside.registry.removeClient } }
    exact .client hc h

inductive ShutsDown (net : Network τ) (before : Kit τ) : Kit τ → Prop where
  | nobody (h : before.registry.client = none) : ShutsDown net before { before with registry := {} }
  | client {id : Nat} {after : Kit τ} (hh : before.registry.client = some (.closeClient id))
      (h : Ends net true id { before with registry := {} } after) : ShutsDown net before after

theorem run_shutdownAll (net : Network τ) (site : Callsite) (trail : Trail (Kit τ))
    (hs : Single trail.outside) :
    ShutsDown net trail.outside ((shutdownAll net site).run trail).2.outside := by
  unfold shutdownAll Registry.shutdownAll
  simp only [Act.run_bind, Act.run_getOutside, Act.run_modifyOutside, hs.noDrivers, List.map_nil,
    Registry.runDrivers, Act.run_pure]
  cases hh : trail.outside.registry.client with
  | none => exact .nobody hh
  | some hook =>
    obtain ⟨id, rfl⟩ := hs.hook hook hh
    have h := run_closeClient net true id
      { trail with outside := { trail.outside with registry := {} } }
    exact .client hh h

namespace Single

variable (hs : Single before)

include hs

theorem clears (h : Clears net before after) : Single after ∧ Idle after := by
  cases h with
  | nobody h =>
    have hidle : Idle { before with cached := none } :=
      hs.idle_of_cached (by rw [h]; rfl)
    exact ⟨hidle.single (fun _ hc => nomatch hc) hs.hook hs.noDrivers, hidle⟩
  | @client id _ hc h =>
    have hidle : Idle after := h.leaves_idle fun _ _ => hs.only hc
    refine ⟨hidle.single ?_ ?_ ?_, hidle⟩
    · intro other hother
      rw [h.cached] at hother
      cases hother
    · intro hook hhook
      rw [h.registry] at hhook
      cases hhook
    · rw [h.registry]
      exact hs.noDrivers

theorem shutsDown (h : ShutsDown net before after) : Single after ∧ Idle after := by
  cases h with
  | nobody h =>
    have hidle : Idle { before with registry := {} } := by
      intro id client hi
      by_contra ho
      have hhook := (hs.current id client hi (Bool.eq_false_iff.mpr ho)).2
      rw [h] at hhook
      cases hhook
    exact ⟨hidle.single hs.known (fun _ hh => nomatch hh) rfl, hidle⟩
  | @client id _ hh h =>
    have hidle : Idle after := h.leaves_idle fun other client ho hopen => by
      have hhook := (hs.current other client ho hopen).2
      rw [hh] at hhook
      cases hhook
      rfl
    refine ⟨hidle.single ?_ ?_ ?_, hidle⟩
    · intro other hother
      rw [h.length]
      exact hs.known other (h.cached ▸ hother)
    · intro hook hhook
      rw [h.registry] at hhook
      cases hhook
    · rw [h.registry]

theorem serves {site : Callsite} {request : ClientRequest} {trail : Trail (Kit τ)}
    {answer : Except Fault (Nat × Client)} (ht : trail.outside = before)
    (h : Serves net site request trail answer after) : Single after := by
  subst ht
  cases h with
  | refused => exact hs
  | shared => exact hs
  | renewed htarget hn h => exact hs.renews h

end Single

/-- No demand lets a second client open. -/
theorem single_meet (net : Network τ) (demand : Demand) (trail : Trail (Kit τ))
    (hs : Single trail.outside) : Single ((demand.meet net).run trail).2.outside := by
  cases demand with
  | getClient site request => exact hs.serves rfl (getClient_serves net site request trail)
  | close id => exact hs.ends (run_closeClient net true id trail)
  | clear => exact (hs.clears (run_clear net trail)).1
  | shutdown site => exact (hs.shutsDown (run_shutdownAll net site trail hs)).1
  | report id content => exact hs.persists (report_persists id content trail)
  | hold held id => exact hs.persists (hold_persists held id trail)
  | settle => exact hs.persists (settle_persists net trail)

theorem single_meets (net : Network τ) (demands : List Demand) (trail : Trail (Kit τ))
    (hs : Single trail.outside) : Single (meets net trail demands).outside := by
  induction demands generalizing trail with
  | nil => exact hs
  | cons demand rest ih => exact ih _ (single_meet net demand trail hs)

theorem single_opening (world : τ) : Single (opening world).outside := by
  refine Idle.single ?_ ?_ ?_ rfl
  · intro id client hi
    cases hi
  · intro id hc
    cases hc
  · intro hook hh
    cases hh

end Kit

end AgentReporting
