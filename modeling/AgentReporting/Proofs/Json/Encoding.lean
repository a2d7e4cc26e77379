import AgentReporting.Json.Printer
import AgentReporting.Proofs.Entries

/-! # What has a written form

Data has a JSON text if all that it is made of has one; of a dictionary these are the values.
-/

namespace AgentReporting.Json

theorem encode?_isSome_iff (v : Value) : (encode? v).isSome = true ↔ encodable v = true := by
  unfold encode?
  split <;> simp_all

theorem allEncodable_eq_all (items : List Value) : allEncodable items = items.all encodable := by
  induction items with
  | nil => rfl
  | cons v rest ih => rw [allEncodable, ih, List.all_cons]

theorem fieldsEncodable_eq_all (fields : List (String × Value)) :
    fieldsEncodable fields = fields.all (encodable ·.2) := by
  induction fields with
  | nil => rfl
  | cons entry rest ih => rw [fieldsEncodable, ih, List.all_cons]

theorem fieldsEncodable_append (fields others : List (String × Value)) :
    fieldsEncodable (fields ++ others) = (fieldsEncodable fields && fieldsEncodable others) := by
  simp only [fieldsEncodable_eq_all, List.all_append]

theorem fieldsEncodable_put {fields : Entries Value} (h : fieldsEncodable fields = true)
    (key : String) {v : Value} (hv : encodable v = true) :
    fieldsEncodable (Entries.put fields key v) = true := by
  rw [fieldsEncodable_eq_all, List.all_eq_true] at h ⊢
  intro entry he
  rcases Entries.mem_put he with he | rfl
  · exact h entry he
  · exact hv

end AgentReporting.Json
