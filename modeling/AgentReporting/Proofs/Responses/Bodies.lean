import AgentReporting.Proofs.Json.RoundTrip
import AgentReporting.Proofs.Responses.Passing

/-! # Error bodies as text

An error is told by the value of an answer: by a dictionary, or by the JSON text of an object
whose own value is that dictionary. Whatever else the object holds, both are read alike. The
value of an answer that stands for success is not read at all.
-/

namespace AgentReporting.Response

variable {status value : Value}

def answer (status value : Value) : Entries Value :=
  [("status", status), ("value", value)]

/-- Two responses that tell the same. They need not come from the same raw answer. -/
structure Agrees (r r' : Response) : Prop where
  sessionId : r.sessionId = r'.sessionId
  state : r.state = r'.state
  status : r.status = r'.status
  value : r.value = r'.value
  passed : r.isPassed = r'.isPassed
  result : r.result = r'.result

theorem agrees_of_raw (sessionId : Value) (state : String) (status value raw raw' : Value) :
    Agrees ⟨sessionId, state, status, value, raw⟩ ⟨sessionId, state, status, value, raw'⟩ :=
  ⟨rfl, rfl, rfl, rfl, rfl, rfl⟩

theorem succeeds_answer_iff :
    Succeeds (some (answer status value)) ↔ status = .null ∨ isZero status = true := by
  have hne : answer status value ≠ [] := List.cons_ne_nil _ _
  rw [succeeds_iff, or_iff_right hne, Bool.or_eq_true, isNull_iff]
  rfl

theorem unwrap_text {body fields : Entries Value} (h : (Value.dict body).Legible)
    (hv : Entries.get? body "value" = some (.dict fields)) (hx : (Value.dict fields).Exact) :
    unwrap (.str (String.ofList (Json.text (.dict body)))) = .dict fields :=
  unwrap_of_body (Json.read?_field h hv hx)

/-- An error is read alike from an object and from its text, and text that comes with success is
kept. -/
theorem body_text_agrees (sessionId status : Value) :
    (status ≠ .null → isZero status = false →
      ∀ error others : Entries Value, (Value.dict error).Exact → (Value.dict others).Legible →
        ∃ text, Json.encode? (.dict (Entries.put others "value" (.dict error))) = some text ∧
          ∃ r r', ofRaw sessionId (.dict (answer status (.str text))) = .ok r ∧
            ofRaw sessionId (.dict (answer status (.dict error))) = .ok r' ∧ Agrees r r') ∧
    (status = .null ∨ isZero status = true →
      ∀ text, ∃ r, ofRaw sessionId (.dict (answer status (.str text))) = .ok r ∧
        r.value = .str text) := by
  constructor
  · intro hn hz error others hx ho
    have hs (value : Value) : ¬ Succeeds (some (answer status value)) := by
      rw [succeeds_answer_iff, hz]
      exact fun h => h.elim hn Bool.false_ne_true
    have hbody : (Value.dict (Entries.put others "value" (.dict error))).Legible :=
      ho.put "value" hx.legible
    have hunwrap := unwrap_text hbody (by rw [Entries.get?_put, if_pos rfl]) hx
    refine ⟨_, Json.encode?_legible hbody, _, _, rfl, rfl, ?_⟩
    rw [ofFields_of_not_succeeds sessionId (hs _), ofFields_of_not_succeeds sessionId (hs _)]
    change Agrees ⟨_, errorState (unwrap (.str _)), _, unwrap (.str _), _⟩ _
    rw [hunwrap]
    exact agrees_of_raw ..
  · intro h text
    refine ⟨_, rfl, ?_⟩
    rw [ofFields_of_succeeds sessionId (succeeds_answer_iff.mpr h)]
    rfl

/-- An error with lists, escapes and a null in it, among members one of which is called "value"
itself, and a text that looks like it under a zero status. -/
theorem nested_body_agrees :
    (∃ text, Json.encode? (.dict [("took", .float 0.5), ("value", .dict [("error", .null),
        ("message", .str "no \"such\"\n\\ \u2713 \x7b"),
        ("stack", .list [.int (-3), .bool true, .dict [], .list [.str ""]])])]) = some text ∧
      ∃ r r', ofRaw (.str "s1") (.dict (answer (.int 404) (.str text))) = .ok r ∧
        ofRaw (.str "s1") (.dict (answer (.int 404) (.dict [("error", .null),
          ("message", .str "no \"such\"\n\\ \u2713 \x7b"),
          ("stack", .list [.int (-3), .bool true, .dict [], .list [.str ""]])]))) = .ok r' ∧
        Agrees r r') ∧
    ∃ r, ofRaw (.str "s1") (.dict (answer (.int 0)
      (.str "\x7b\"value\": \x7b\"error\": null\x7d\x7d"))) = .ok r ∧
      r.value = .str "\x7b\"value\": \x7b\"error\": null\x7d\x7d" := by
  have hshort (n : ℤ) (h : n.natAbs < 10) : n.natAbs < 10 ^ Decimal.maxDigits :=
    h.trans_le (Nat.le_self_pow (by decide) 10)
  refine ⟨(body_text_agrees (.str "s1") (.int 404)).1 (fun h => nomatch h) rfl _
    [("took", .float 0.5), ("value", .int 1)] (.dict (by decide) ?_) (.dict (by decide) ?_),
    (body_text_agrees (.str "s1") (.int 0)).2 (.inr rfl) _⟩
  · have hstack : (Value.list [.int (-3), .bool true, .dict [], .list [.str ""]]).Exact := by
      refine .list ?_
      simp only [List.forall_mem_cons]
      exact ⟨.int (hshort _ (by decide)), .bool true, .dict List.nodup_nil nofun,
        .list (by simpa using Value.Exact.str ""), nofun⟩
    simp only [List.forall_mem_cons]
    exact ⟨.null, .str _, hstack, nofun⟩
  · simp only [List.forall_mem_cons]
    exact ⟨.float _, .int (hshort _ (by decide)), nofun⟩

end AgentReporting.Response
