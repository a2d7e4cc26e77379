import AgentReporting.Response

/-! # Responses that pass

A response passes if the raw answer stands for success. It passes as well if the answer is an
error whose own name is the word for success, whether it comes as a dictionary or as text.
-/

namespace AgentReporting.Response

variable {raw : Option (Entries Value)} {fields : Entries Value} {value : Value}

/-- A raw answer stands for success if nothing is in it, or no status, or one that equals zero. -/
inductive Succeeds : Option (Entries Value) → Prop where
  | nothing : Succeeds none
  | empty : Succeeds (some [])
  | noStatus {fields : Entries Value} (h : (Value.dict fields).get "status" = .null) :
      Succeeds (some fields)
  | zero {fields : Entries Value} (h : isZero ((Value.dict fields).get "status") = true) :
      Succeeds (some fields)

/-- The value is an error with a name: a dictionary that has one, or the JSON text of an object
whose value is such a dictionary. -/
inductive NamesError (value : Value) (name : String) : Prop where
  | object {error : Value} (h : value.field? "error" = some error) (hn : error.display = name)
  | text {text : String} {body error : Value} {fields : Entries Value} (hv : value = .str text)
      (hr : Json.read? text = some body) (hb : body.field? "value" = some (.dict fields))
      (h : Entries.get? fields "error" = some error) (hn : error.display = name)

theorem isNull_iff : isNull value = true ↔ value = .null := by
  cases value <;> simp [isNull]

theorem unwrap_of_body {text : String}
    (h : (Json.read? text).bind (·.field? "value") = some (.dict fields)) :
    unwrap (.str text) = .dict fields := by
  rw [unwrap, h]

theorem unwrap_of_no_body {text : String}
    (h : ∀ fields, (Json.read? text).bind (·.field? "value") ≠ some (.dict fields)) :
    unwrap (.str text) = .str text := by
  rw [unwrap]
  split
  · exact absurd ‹_› (h _)
  · rfl

theorem unwrap_of_ne_str (h : ∀ text, value ≠ .str text) : unwrap value = value := by
  rw [unwrap]
  exact h

theorem errorState_eq_iff {name : String} (hne : name ≠ "error") :
    errorState value = name ↔
      ∃ error, value.field? "error" = some error ∧ error.display = name := by
  rw [errorState]
  cases value.field? "error" with
  | none => simpa using hne.symm
  | some error => simp

theorem errorState_unwrap_iff {name : String} (hne : name ≠ "error") :
    errorState (unwrap value) = name ↔ NamesError value name := by
  rw [errorState_eq_iff hne]
  by_cases hv : ∃ text, value = .str text
  · obtain ⟨text, rfl⟩ := hv
    by_cases hb : ∃ fields, (Json.read? text).bind (·.field? "value") = some (.dict fields)
    · obtain ⟨fields, hb⟩ := hb
      obtain ⟨body, hr, hf⟩ := Option.bind_eq_some_iff.mp hb
      rw [unwrap_of_body hb]
      constructor
      · rintro ⟨error, he, hn⟩
        exact .text rfl hr hf he hn
      · intro h
        cases h with
        | object h => cases h
        | @text _ body' error fields' hv hr' hf' he hn =>
          cases hv
          cases hr.symm.trans hr'
          cases hf.symm.trans hf'
          exact ⟨error, he, hn⟩
    · rw [unwrap_of_no_body fun fields h => hb ⟨fields, h⟩]
      refine iff_of_false (fun ⟨_, he, _⟩ => nomatch he) fun h => ?_
      cases h with
      | object h => cases h
      | text hv hr hf =>
        cases hv
        exact hb ⟨_, by rw [hr]; exact hf⟩
  · rw [unwrap_of_ne_str fun text h => hv ⟨text, h⟩]
    constructor
    · rintro ⟨error, he, hn⟩
      exact .object he hn
    · intro h
      cases h with
      | object he hn => exact ⟨_, he, hn⟩
      | text h => exact absurd ⟨_, h⟩ hv

theorem succeeds_iff : Succeeds (some fields) ↔ fields = [] ∨
    (isNull ((Value.dict fields).get "status") || isZero ((Value.dict fields).get "status")) =
      true := by
  rw [Bool.or_eq_true, isNull_iff]
  constructor
  · intro h
    cases h with
    | empty => exact .inl rfl
    | noStatus h => exact .inr (.inl h)
    | zero h => exact .inr (.inr h)
  · rintro (rfl | h | h)
    · exact .empty
    · exact .noStatus h
    · exact .zero h

theorem ofFields_of_succeeds (sessionId : Value) (h : Succeeds (some fields)) :
    ofFields sessionId fields =
      ⟨sessionId, success, .int 0, (Value.dict fields).get "value", .dict fields⟩ := by
  cases fields with
  | nil => rfl
  | cons entry rest =>
    have hs := (succeeds_iff.mp h).resolve_left (List.cons_ne_nil entry rest)
    simp only [ofFields, List.isEmpty_cons, hs, Bool.false_eq_true, if_false, if_true]

theorem ofFields_of_not_succeeds (sessionId : Value) (h : ¬ Succeeds (some fields)) :
    ofFields sessionId fields =
      let value := unwrap ((Value.dict fields).get "value")
      ⟨sessionId, errorState value, (Value.dict fields).get "status", value, .dict fields⟩ := by
  rw [succeeds_iff, not_or, Bool.not_eq_true] at h
  have hne : fields.isEmpty = false := by simpa using h.1
  simp only [ofFields, hne, h.2, Bool.false_eq_true, if_false]

/-- A response passes exactly if its answer stands for success, or is an error with that name. -/
theorem passes_iff (sessionId : Value) (raw : Option (Entries Value)) :
    ∃ r, ofRaw sessionId (.ofOption (raw.map .dict)) = .ok r ∧
      (r.isPassed = true ↔ Succeeds raw ∨
        ∃ fields, raw = some fields ∧ NamesError ((Value.dict fields).get "value") success) := by
  cases raw with
  | none => exact ⟨_, rfl, iff_of_true rfl (.inl .nothing)⟩
  | some fields =>
    refine ⟨_, rfl, ?_⟩
    by_cases hs : Succeeds (some fields)
    · rw [ofFields_of_succeeds sessionId hs]
      exact iff_of_true rfl (.inl hs)
    · have hz : isZero ((Value.dict fields).get "status") = false :=
        Bool.eq_false_iff.mpr fun hz => hs (.zero hz)
      rw [ofFields_of_not_succeeds sessionId hs, or_iff_right hs]
      simp only [isPassed, hz, Bool.or_false, beq_iff_eq, Option.some.injEq, exists_eq_left']
      exact errorState_unwrap_iff (by decide)

/-- An error with the name of success passes, as a dictionary and as text. -/
theorem failure_named_success :
    (∃ r, ofRaw .null (.dict [("status", .int 500), ("value", .dict [("error", .str "success")])]) =
      .ok r ∧ r.isPassed = true) ∧
    ∃ r, ofRaw .null (.dict [("status", .int 500),
      ("value", .str "\x7b\"value\": \x7b\"error\": \"success\"\x7d\x7d")]) = .ok r ∧
      r.isPassed = true := by
  refine ⟨⟨_, rfl, ?_⟩, _, rfl, ?_⟩
  · decide +kernel
  · decide +kernel

end AgentReporting.Response
