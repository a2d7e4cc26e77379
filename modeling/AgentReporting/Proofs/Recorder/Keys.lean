import AgentReporting.Command
import AgentReporting.Proofs.Json.Sorting

/-! # Keys of commands

The key of a command is the digest of a text. Unless the digests of two texts collide, two
commands have the same key if and only if they are the same up to the order of entries in
their parameters.
-/

namespace AgentReporting.Command

open Json

/-- A command in a session with a name, or in none, that has exact data for its parameters. -/
structure Plain (c : Command) : Prop where
  sessionId : c.sessionId = .null ∨ ∃ id, c.sessionId = .str id
  parameters : c.parameters.Exact

variable {c d : Command}

theorem Plain.identity (h : c.Plain) : c.identity.Exact := by
  have hid : c.sessionId.Exact := by
    rcases h.sessionId with hs | ⟨id, hs⟩
    · rw [hs]
      exact .null
    · rw [hs]
      exact .str id
  refine .list fun v hv => ?_
  simp only [List.mem_cons, List.not_mem_nil, or_false] at hv
  rcases hv with rfl | rfl | rfl
  · exact hid
  · exact .str c.name
  · exact h.parameters

theorem Plain.sortKeys_identity (h : c.Plain) :
    sortKeys c.identity = .list [c.sessionId, .str c.name, sortKeys c.parameters] := by
  have hid : sortKeys c.sessionId = c.sessionId := by
    rcases h.sessionId with hs | ⟨id, hs⟩
    · rw [hs]
      rfl
    · rw [hs]
      rfl
  simp only [Command.identity, sortKeys, sortKeysAll, hid]

theorem Plain.keyText (h : c.Plain) :
    c.keyText? = some (String.ofList (text (sortKeys c.identity))) :=
  encode?_exact (sortKeys_exact h.identity)

theorem Plain.structuralKey (h : c.Plain) :
    c.structuralKey = .ok (Digest.sha1 (String.ofList (text (sortKeys c.identity)))) := by
  rw [Command.structuralKey, h.keyText]

/-- Plain commands have keys; and if the digests of their texts do not collide, these are the same
for the same command in the same session, up to the order of the entries in its parameters. -/
theorem same_key_iff (hc : c.Plain) (hd : d.Plain)
    (h : ∀ t u, c.keyText? = some t → d.keyText? = some u → Digest.sha1 t = Digest.sha1 u → t = u) :
    (∃ key, c.structuralKey = .ok key) ∧ (∃ key, d.structuralKey = .ok key) ∧
      (c.structuralKey = d.structuralKey ↔
        c.sessionId = d.sessionId ∧ c.name = d.name ∧ c.parameters.Rearranged d.parameters) := by
  refine ⟨⟨_, hc.structuralKey⟩, ⟨_, hd.structuralKey⟩, ?_⟩
  rw [hc.structuralKey, hd.structuralKey, ← sortKeys_eq_iff hc.parameters hd.parameters]
  constructor
  · intro he
    have ht := congrArg String.toList (h _ _ hc.keyText hd.keyText (Except.ok.inj he))
    rw [String.toList_ofList, String.toList_ofList] at ht
    have hs := text_injective (sortKeys_exact hc.identity) (sortKeys_exact hd.identity) ht
    rw [hc.sortKeys_identity, hd.sortKeys_identity] at hs
    simpa using hs
  · rintro ⟨hs, hn, hp⟩
    rw [hc.sortKeys_identity, hd.sortKeys_identity, hs, hn, hp]

def clicking (sessionId : Value) (parameters : List (String × Value)) : Command :=
  { sessionId, name := "clickElement", parameters := .dict parameters }

theorem clicking_plain {sessionId : Value} {parameters : List (String × Value)}
    (hs : sessionId = .null ∨ ∃ id, sessionId = .str id)
    (hk : (parameters.map (·.1)).Nodup) (hx : ∀ entry ∈ parameters, ∃ s, entry.2 = .str s) :
    (clicking sessionId parameters).Plain := by
  refine ⟨hs, .dict hk fun entry he => ?_⟩
  obtain ⟨s, hs⟩ := hx entry he
  rw [hs]
  exact .str s

/-- The order of the entries does not matter for a key; but a session with the name "null" is not
the same as no session. -/
theorem same_key_of_clicking :
    let parameters := [("id", Value.str "e1"), ("text", .str "\u00e9")]
    (clicking .null parameters).structuralKey =
        (clicking .null parameters.reverse).structuralKey ∧
      (clicking .null parameters).structuralKey ≠
        (clicking (.str "null") parameters).structuralKey := by
  intro parameters
  have hx : ∀ entry ∈ parameters, ∃ s, entry.2 = .str s := by simp [parameters]
  have hp : (clicking .null parameters).Plain := clicking_plain (.inl rfl) (by decide) hx
  have hr : (clicking .null parameters.reverse).Plain :=
    clicking_plain (.inl rfl) (by decide) fun entry he => hx entry (List.mem_reverse.mp he)
  have hn : (clicking (.str "null") parameters).Plain :=
    clicking_plain (.inr ⟨"null", rfl⟩) (by decide) hx
  have hperm : (clicking .null parameters).parameters.Rearranged
      (clicking .null parameters.reverse).parameters := .perm (List.reverse_perm _).symm
  have hsort : sortKeys (.dict parameters) = .dict parameters :=
    congrArg Value.dict (List.mergeSort_of_pairwise (by decide))
  constructor
  · refine (same_key_iff hp hr fun t u hc hd _ => ?_).2.2.mpr ⟨rfl, rfl, hperm⟩
    rw [hp.keyText, hp.sortKeys_identity,
      (sortKeys_eq_iff hp.parameters hr.parameters).mpr hperm] at hc
    rw [hr.keyText, hr.sortKeys_identity] at hd
    exact Option.some.inj (hc.symm.trans hd)
  · intro he
    have hs := ((same_key_iff hp hn fun t u hc hd hsha => ?_).2.2.mp he).1
    · cases hs
    · rw [hp.keyText, hp.sortKeys_identity] at hc
      rw [hn.keyText, hn.sortKeys_identity] at hd
      simp only [clicking, hsort] at hc hd
      cases hc
      cases hd
      exact absurd hsha (by decide +kernel)

end AgentReporting.Command
