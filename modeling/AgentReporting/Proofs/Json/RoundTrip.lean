import AgentReporting.Proofs.Json.Encoding
import AgentReporting.Proofs.Json.Fractions
import Mathlib.Tactic.Choose

/-! # Reading what was written

The written form of data is read up to its end. That of exact data is read back to the same
data, so it tells exact values apart.
-/

namespace AgentReporting

/-- Data with a written form that tells it from all other data: no fractions, no integers too
long to be read, no live objects, and no dictionaries in which a key comes twice. -/
inductive Value.Exact : Value → Prop where
  | null : Exact .null
  | bool (b : Bool) : Exact (.bool b)
  | int {n : ℤ} (h : n.natAbs < 10 ^ Decimal.maxDigits) : Exact (.int n)
  | str (s : String) : Exact (.str s)
  | list {items : List Value} (h : ∀ v ∈ items, Exact v) : Exact (.list items)
  | dict {fields : List (String × Value)} (hk : (fields.map (·.1)).Nodup)
      (h : ∀ entry ∈ fields, Exact entry.2) : Exact (.dict fields)

/-- Data with a written form that can be read: no integers too long to be read, no live objects,
and no dictionaries in which a key comes twice. -/
inductive Value.Legible : Value → Prop where
  | null : Legible .null
  | bool (b : Bool) : Legible (.bool b)
  | int {n : ℤ} (h : n.natAbs < 10 ^ Decimal.maxDigits) : Legible (.int n)
  | float (x : Float) : Legible (.float x)
  | str (s : String) : Legible (.str s)
  | list {items : List Value} (h : ∀ v ∈ items, Legible v) : Legible (.list items)
  | dict {fields : List (String × Value)} (hk : (fields.map (·.1)).Nodup)
      (h : ∀ entry ∈ fields, Legible entry.2) : Legible (.dict fields)

theorem Value.Exact.legible {v : Value} (h : v.Exact) : v.Legible := by
  induction h with
  | null => exact .null
  | bool b => exact .bool b
  | int h => exact .int h
  | str s => exact .str s
  | list _ ih => exact .list ih
  | dict hk _ ih => exact .dict hk ih

theorem Value.Legible.put {fields : Entries Value} (h : (Value.dict fields).Legible) (key : String)
    {v : Value} (hv : v.Legible) : (Value.dict (Entries.put fields key v)).Legible := by
  cases h with
  | dict hk hx =>
    refine .dict (Entries.nodup_put hk) fun entry he => ?_
    rcases Entries.mem_put he with he | rfl
    · exact hx entry he
    · exact hv

namespace Json

/-! ## Forms

What the printer and the reader do with one kind of value each.
-/

theorem text_null : text .null = 'n' :: "ull".toList := rfl

theorem text_false : text (.bool false) = 'f' :: "alse".toList := rfl

theorem text_true : text (.bool true) = 't' :: "rue".toList := rfl

theorem text_int (n : ℤ) : text (.int n) = intText n := rfl

theorem text_str (s : String) : text (.str s) = stringText s := rfl

theorem text_list (items : List Value) : text (.list items) = '[' :: itemsText items ++ [']'] := rfl

theorem text_dict (fields : List (String × Value)) :
    text (.dict fields) = '{' :: fieldsText fields ++ ['}'] := rfl

theorem itemsText_singleton (v : Value) : itemsText [v] = text v := rfl

theorem itemsText_cons_cons (v w : Value) (vs : List Value) :
    itemsText (v :: w :: vs) = text v ++ ',' :: ' ' :: itemsText (w :: vs) := rfl

theorem fieldsText_singleton (k : String) (v : Value) :
    fieldsText [(k, v)] = stringText k ++ ':' :: ' ' :: text v := rfl

theorem fieldsText_cons_cons (k : String) (v : Value) (entry : String × Value)
    (fields : List (String × Value)) :
    fieldsText ((k, v) :: entry :: fields) =
      stringText k ++ ':' :: ' ' :: text v ++ ',' :: ' ' :: fieldsText (entry :: fields) := rfl

theorem skipSpace_cons {c : Char} (h : isSpace c = false) (cs : List Char) :
    skipSpace (c :: cs) = c :: cs := by
  rw [skipSpace, List.dropWhile_cons, h]
  rfl

theorem skipSpace_blank (cs : List Char) : skipSpace (' ' :: cs) = skipSpace cs := rfl

theorem value?_str (fuel : ℕ) (cs : List Char) :
    value? (fuel + 1) ('"' :: cs) = (string? cs).map fun (s, rest) => (.str s, rest) := rfl

theorem value?_bracket (fuel : ℕ) (cs : List Char) : value? (fuel + 1) ('[' :: cs) =
    match skipSpace cs with
    | ']' :: rest => some (.list [], rest)
    | rest => (items? fuel rest).map fun (items, rest) => (.list items, rest) := rfl

theorem value?_list (fuel : ℕ) {c : Char} (hs : isSpace c = false) (hc : c ≠ ']')
    (cs : List Char) : value? (fuel + 1) ('[' :: c :: cs) =
      (items? fuel (c :: cs)).map fun (items, rest) => (.list items, rest) := by
  rw [value?_bracket, skipSpace_cons hs]
  split
  · exact absurd (List.cons.inj ‹_›).1 hc
  · rfl

theorem value?_dict (fuel : ℕ) (cs : List Char) : value? (fuel + 1) ('{' :: '"' :: cs) =
    (fields? fuel ('"' :: cs)).map fun (fields, rest) => (.dict (Entries.ofList fields), rest) :=
  rfl

theorem value?_word (fuel : ℕ) {c : Char} (hq : c ≠ '"') (hl : c ≠ '[') (hd : c ≠ '{')
    (cs : List Char) :
    value? (fuel + 1) (c :: cs) = (word? (c :: cs)).or (number? (c :: cs)) := by
  unfold value?
  split
  · exact absurd (List.cons.inj ‹_›).1 hq
  · exact absurd (List.cons.inj ‹_›).1 hl
  · exact absurd (List.cons.inj ‹_›).1 hd
  · cases word? (c :: cs) <;> rfl

theorem items?_succ (fuel : ℕ) (cs : List Char) :
    items? (fuel + 1) cs = (value? fuel cs).bind fun (v, rest) =>
      match skipSpace rest with
      | ']' :: rest => some ([v], rest)
      | ',' :: rest => (items? fuel (skipSpace rest)).bind fun (vs, rest) => some (v :: vs, rest)
      | _ => none := rfl

/-! ## Heads -/

theorem exists_intText_cons (n : ℤ) :
    ∃ c cs, intText n = c :: cs ∧ (c = '-' ∨ c.isDigit = true) := by
  unfold intText
  split
  · exact ⟨'-', _, rfl, .inl rfl⟩
  · obtain ⟨c, cs, hc, hd⟩ := exists_digit_cons n.natAbs
    exact ⟨c, cs, hc, .inr hd⟩

theorem head_of_digit {c : Char} (h : c = '-' ∨ c.isDigit = true) :
    isSpace c = false ∧ c ≠ ']' := by
  rcases h with rfl | hd
  · exact ⟨rfl, by decide⟩
  · have hn (d : Char) (h : d.isDigit = false) : c ≠ d := ne_of_isDigit hd h
    exact ⟨by simp [isSpace, hn ' ' rfl, hn '\t' rfl, hn '\n' rfl, hn '\r' rfl], hn ']' rfl⟩

theorem exists_floatText_cons (x : Float) :
    ∃ c cs, floatText x = c :: cs ∧ (c = 'N' ∨ c = 'I' ∨ c = '-' ∨ c.isDigit = true) := by
  have hw := written_floatText x
  generalize floatText x = text at hw ⊢
  cases hw with
  | word h =>
    rcases h with rfl | rfl | rfl
    · exact ⟨'N', _, rfl, .inl rfl⟩
    · exact ⟨'I', _, rfl, .inr (.inl rfl)⟩
    · exact ⟨'-', _, rfl, .inr (.inr (.inl rfl))⟩
  | positive h =>
    obtain ⟨c, cs, hc, hd⟩ := h.exists_cons
    exact ⟨c, cs, hc, .inr (.inr (.inr hd))⟩
  | negative h => exact ⟨'-', _, rfl, .inr (.inr (.inl rfl))⟩

/-- No written form begins with a blank, or with what closes a list. -/
theorem exists_text_cons {v : Value} (h : v.Legible) :
    ∃ c cs, text v = c :: cs ∧ isSpace c = false ∧ c ≠ ']' := by
  cases h with
  | null => exact ⟨'n', _, text_null, rfl, by decide⟩
  | bool b =>
    cases b with
    | false => exact ⟨'f', _, text_false, rfl, by decide⟩
    | true => exact ⟨'t', _, text_true, rfl, by decide⟩
  | @int n h =>
    obtain ⟨c, cs, hc, hd⟩ := exists_intText_cons n
    exact ⟨c, cs, hc, head_of_digit hd⟩
  | float x =>
    obtain ⟨c, cs, hc, rfl | rfl | hd⟩ := exists_floatText_cons x
    · exact ⟨'N', cs, hc, rfl, by decide⟩
    · exact ⟨'I', cs, hc, rfl, by decide⟩
    · exact ⟨c, cs, hc, head_of_digit hd⟩
  | str s => exact ⟨'"', _, rfl, rfl, by decide⟩
  | list h => exact ⟨'[', _, rfl, rfl, by decide⟩
  | dict hk h => exact ⟨'{', _, rfl, rfl, by decide⟩

/-! ## Values -/

/-- From the written form of one value another one is read, whatever closes it. -/
def Reads (v w : Value) : Prop := ∀ ⦃fuel : ℕ⦄ ⦃rest : List Char⦄,
  2 * (text v).length ≤ fuel + 1 → Closes rest → value? (fuel + 1) (text v ++ rest) = some (w, rest)

theorem Reads.unique {v w w' : Value} (h : Reads v w) (h' : Reads v w') : w = w' := by
  have hw := @h (2 * (text v).length) [] (by omega) .nil
  rw [@h' (2 * (text v).length) [] (by omega) .nil] at hw
  cases hw
  rfl

theorem reads_of_other {v w : Value} {c : Char} {cs : List Char} (hv : text v = c :: cs)
    (hq : c ≠ '"') (hl : c ≠ '[') (hd : c ≠ '{')
    (h : ∀ rest, Closes rest → (word? (text v ++ rest)).or (number? (text v ++ rest)) =
      some (w, rest)) : Reads v w := by
  intro fuel rest _ hr
  have hrest := h rest hr
  rw [hv, List.cons_append] at hrest ⊢
  rw [value?_word fuel hq hl hd, hrest]

theorem reads_null : Reads .null .null :=
  reads_of_other text_null (by decide) (by decide) (by decide) fun _ _ => rfl

theorem reads_bool (b : Bool) : Reads (.bool b) (.bool b) := by
  cases b with
  | false =>
    exact reads_of_other text_false (by decide) (by decide) (by decide) fun _ _ => rfl
  | true =>
    exact reads_of_other text_true (by decide) (by decide) (by decide) fun _ _ => rfl

theorem reads_of_digit {v w : Value} {c : Char} {cs : List Char} (hv : text v = c :: cs)
    (hd : c = '-' ∨ c.isDigit = true)
    (h : ∀ rest, Closes rest → (word? (text v ++ rest)).or (number? (text v ++ rest)) =
      some (w, rest)) : Reads v w := by
  have hn (d : Char) (hm : d ≠ '-') (h : d.isDigit = false) : c ≠ d := by
    rcases hd with rfl | hd
    · exact hm.symm
    · exact ne_of_isDigit hd h
  exact reads_of_other hv (hn '"' (by decide) rfl) (hn '[' (by decide) rfl)
    (hn '{' (by decide) rfl) h

theorem reads_int {n : ℤ} (h : n.natAbs < 10 ^ Decimal.maxDigits) : Reads (.int n) (.int n) := by
  obtain ⟨c, cs, hc, hd⟩ := exists_intText_cons n
  refine reads_of_digit hc hd fun rest hr => ?_
  rw [text_int, word?_intText, Option.none_or, number?_intText hr h]

theorem exists_reads_float (x : Float) : ∃ y, Reads (.float x) (.float y) := by
  have hread : ∃ y, ∀ rest, Closes rest →
      (word? (floatText x ++ rest)).or (number? (floatText x ++ rest)) = some (.float y, rest) := by
    have hw := written_floatText x
    generalize floatText x = text at hw ⊢
    cases hw with
    | word h =>
      rcases h with rfl | rfl | rfl
      · exact ⟨nan, fun _ _ => rfl⟩
      · exact ⟨infinity false, fun _ _ => rfl⟩
      · exact ⟨infinity true, fun _ _ => rfl⟩
    | positive h =>
      obtain ⟨y, hy⟩ := h.number.1
      obtain ⟨c, cs, rfl, hd⟩ := h.exists_cons
      refine ⟨y, fun rest hr => ?_⟩
      rw [List.cons_append, (word?_of_digit hd (cs ++ rest)).1, Option.none_or]
      exact hy rest hr
    | negative h =>
      obtain ⟨y, hy⟩ := h.number.2
      obtain ⟨c, cs, rfl, hd⟩ := h.exists_cons
      refine ⟨y, fun rest hr => ?_⟩
      rw [List.cons_append, List.cons_append, (word?_of_digit hd (cs ++ rest)).2, Option.none_or]
      exact hy rest hr
  obtain ⟨y, hy⟩ := hread
  obtain ⟨c, cs, hc, rfl | rfl | hd⟩ := exists_floatText_cons x
  · exact ⟨y, reads_of_other hc (by decide) (by decide) (by decide) hy⟩
  · exact ⟨y, reads_of_other hc (by decide) (by decide) (by decide) hy⟩
  · exact ⟨y, reads_of_digit hc hd hy⟩

theorem reads_str (s : String) : Reads (.str s) (.str s) := by
  intro fuel rest _ _
  rw [text_str, stringText, List.cons_append, List.cons_append, List.append_assoc,
    List.singleton_append, value?_str, string?_escaped]
  rfl

/-! ## Lists -/

theorem exists_itemsText_cons {v : Value} (h : v.Legible) (vs : List Value) :
    ∃ c cs, itemsText (v :: vs) = c :: cs ∧ isSpace c = false ∧ c ≠ ']' := by
  obtain ⟨c, cs, hc, hs, hb⟩ := exists_text_cons h
  cases vs with
  | nil => exact ⟨c, cs, by rw [itemsText_singleton, hc], hs, hb⟩
  | cons w vs => exact ⟨c, _, by rw [itemsText_cons_cons, hc]; rfl, hs, hb⟩

/-- Items that are read one by one are read up to the closing bracket. -/
theorem items?_itemsText {items : List Value} {f : Value → Value} (hne : items ≠ [])
    (hx : ∀ v ∈ items, v.Legible) (h : ∀ v ∈ items, Reads v (f v)) {fuel : ℕ}
    (hf : 2 * (itemsText items).length ≤ fuel) (rest : List Char) :
    items? (fuel + 1) (itemsText items ++ ']' :: rest) = some (items.map f, rest) := by
  induction items generalizing fuel with
  | nil => contradiction
  | cons v vs ih =>
    obtain ⟨hv, hvs⟩ := List.forall_mem_cons.mp h
    obtain ⟨hxv, hxs⟩ := List.forall_mem_cons.mp hx
    obtain ⟨c, cs, hc, -, -⟩ := exists_text_cons hxv
    have hpos : 0 < (text v).length := by rw [hc]; exact Nat.succ_pos _
    cases vs with
    | nil =>
      rw [itemsText_singleton] at hf ⊢
      cases fuel with
      | zero => omega
      | succ fuel =>
        rw [items?_succ, hv hf (.cons (.inr (.inl rfl)) rest)]
        simp only [Option.bind_some, @skipSpace_cons ']' rfl, List.map_cons, List.map_nil]
    | cons w vs =>
      obtain ⟨d, ds, hd, hs, -⟩ := exists_itemsText_cons (hxs w List.mem_cons_self) vs
      rw [itemsText_cons_cons, List.length_append, List.length_cons, List.length_cons] at hf
      rw [itemsText_cons_cons, List.append_assoc, List.cons_append, List.cons_append]
      cases fuel with
      | zero => omega
      | succ fuel =>
        have hrest := @ih (List.cons_ne_nil w vs) hxs hvs fuel (by omega)
        rw [hd, List.cons_append] at hrest ⊢
        rw [items?_succ, hv (by omega) (.cons (.inl rfl) _)]
        simp only [Option.bind_some, @skipSpace_cons ',' rfl, skipSpace_blank, skipSpace_cons hs,
          hrest, List.map_cons]

theorem reads_list {items : List Value} {f : Value → Value} (hx : ∀ v ∈ items, v.Legible)
    (h : ∀ v ∈ items, Reads v (f v)) : Reads (.list items) (.list (items.map f)) := by
  intro fuel rest hf _
  rw [text_list, List.length_append, List.length_cons] at hf
  rw [text_list, List.append_assoc, List.cons_append]
  cases items with
  | nil => rfl
  | cons v vs =>
    obtain ⟨c, cs, hc, hs, hb⟩ := exists_itemsText_cons (hx v List.mem_cons_self) vs
    cases fuel with
    | zero => omega
    | succ fuel =>
      have hitems := items?_itemsText (List.cons_ne_nil v vs) hx h
        (by omega : 2 * (itemsText (v :: vs)).length ≤ fuel) rest
      rw [List.singleton_append]
      rw [hc, List.cons_append] at hitems ⊢
      rw [value?_list (fuel + 1) hs hb, hitems]
      rfl

/-! ## Dictionaries -/

theorem exists_fieldsText_cons (entry : String × Value) (fields : List (String × Value)) :
    ∃ cs, fieldsText (entry :: fields) = '"' :: cs := by
  obtain ⟨k, v⟩ := entry
  cases fields with
  | nil => exact ⟨_, fieldsText_singleton k v⟩
  | cons entry fields => exact ⟨_, fieldsText_cons_cons k v entry fields⟩

theorem fields?_fieldsText {fields : List (String × Value)} {f : Value → Value} (hne : fields ≠ [])
    (hx : ∀ entry ∈ fields, entry.2.Legible) (h : ∀ entry ∈ fields, Reads entry.2 (f entry.2))
    {fuel : ℕ} (hf : 2 * (fieldsText fields).length ≤ fuel) (rest : List Char) :
    fields? (fuel + 1) (fieldsText fields ++ '}' :: rest) =
      some (fields.map fun entry => (entry.1, f entry.2), rest) := by
  induction fields generalizing fuel with
  | nil => contradiction
  | cons entry fields ih =>
    obtain ⟨hv, hvs⟩ := List.forall_mem_cons.mp h
    obtain ⟨hxv, hxs⟩ := List.forall_mem_cons.mp hx
    obtain ⟨k, v⟩ := entry
    change Reads v (f v) at hv
    obtain ⟨c, cs, hc, hb, -⟩ := exists_text_cons hxv
    have hskip (more : List Char) : skipSpace (text v ++ more) = text v ++ more := by
      rw [hc, List.cons_append, skipSpace_cons hb]
    cases fields with
    | nil =>
      rw [fieldsText_singleton, stringText] at hf ⊢
      simp only [List.cons_append, List.append_assoc, List.length_cons, List.length_append] at hf ⊢
      cases fuel with
      | zero => omega
      | succ fuel =>
        rw [fields?, string?_escaped]
        simp only [Option.bind_eq_bind, Option.bind_some, @skipSpace_cons ':' rfl, skipSpace_blank,
          List.nil_append, hskip]
        rw [hv (by omega) (.cons (.inr (.inr rfl)) rest)]
        simp only [Option.bind_some, @skipSpace_cons '}' rfl]
        rfl
    | cons entry fields =>
      obtain ⟨ds, hd⟩ := exists_fieldsText_cons entry fields
      rw [fieldsText_cons_cons, stringText] at hf ⊢
      simp only [List.cons_append, List.append_assoc, List.length_cons, List.length_append] at hf ⊢
      cases fuel with
      | zero => omega
      | succ fuel =>
        have hrest := @ih (List.cons_ne_nil entry fields) hxs hvs fuel (by omega)
        rw [hd, List.cons_append] at hrest ⊢
        rw [fields?, string?_escaped]
        simp only [Option.bind_eq_bind, Option.bind_some, @skipSpace_cons ':' rfl, skipSpace_blank,
          List.nil_append, hskip]
        rw [hv (by omega) (.cons (.inl rfl) _)]
        simp only [Option.bind_some, @skipSpace_cons ',' rfl, skipSpace_blank,
          @skipSpace_cons '"' rfl, hrest]
        rfl

theorem reads_dict {fields : List (String × Value)} {f : Value → Value}
    (hk : (fields.map (·.1)).Nodup) (hx : ∀ entry ∈ fields, entry.2.Legible)
    (h : ∀ entry ∈ fields, Reads entry.2 (f entry.2)) :
    Reads (.dict fields) (.dict (fields.map fun entry => (entry.1, f entry.2))) := by
  intro fuel rest hf _
  rw [text_dict, List.length_append, List.length_cons] at hf
  rw [text_dict, List.append_assoc, List.cons_append]
  cases fields with
  | nil => rfl
  | cons entry fields =>
    obtain ⟨cs, hc⟩ := exists_fieldsText_cons entry fields
    cases fuel with
    | zero => omega
    | succ fuel =>
      have hfields := fields?_fieldsText (List.cons_ne_nil entry fields) hx h
        (by omega : 2 * (fieldsText (entry :: fields)).length ≤ fuel) rest
      rw [List.singleton_append]
      rw [hc, List.cons_append] at hfields ⊢
      rw [value?_dict, hfields, Option.map_some]
      have hkeys : ((entry :: fields).map fun entry => (entry.1, f entry.2)).map (·.1) =
          (entry :: fields).map (·.1) := by rw [List.map_map]; rfl
      dsimp only
      rw [Entries.ofList_of_nodup (hkeys ▸ hk)]

theorem exists_reads {v : Value} (h : v.Legible) : ∃ w, Reads v w := by
  induction h with
  | null => exact ⟨_, reads_null⟩
  | bool b => exact ⟨_, reads_bool b⟩
  | int h => exact ⟨_, reads_int h⟩
  | float x =>
    obtain ⟨y, hy⟩ := exists_reads_float x
    exact ⟨_, hy⟩
  | str s => exact ⟨_, reads_str s⟩
  | list hx h =>
    choose! f hf using h
    exact ⟨_, reads_list hx hf⟩
  | @dict fields hk hx h =>
    have hv : ∀ v ∈ fields.map (·.2), ∃ w, Reads v w := List.forall_mem_map.mpr h
    choose! f hf using hv
    exact ⟨_, reads_dict hk hx (List.forall_mem_map.mp hf)⟩

theorem reads_exact {v : Value} (h : v.Exact) : Reads v v := by
  induction h with
  | null => exact reads_null
  | bool b => exact reads_bool b
  | int h => exact reads_int h
  | str s => exact reads_str s
  | @list items hx h =>
    have hr := @reads_list items id (fun v hv => (hx v hv).legible) h
    rwa [List.map_id] at hr
  | @dict fields hk hx h =>
    have hr := @reads_dict fields id hk (fun entry he => (hx entry he).legible) h
    have hid : (fun entry : String × Value => (entry.1, id entry.2)) = id := rfl
    rwa [hid, List.map_id] at hr

theorem read?_of_reads {v w : Value} (h : v.Legible) (hr : Reads v w) :
    read? (String.ofList (text v)) = some w := by
  obtain ⟨c, cs, hc, hs, -⟩ := exists_text_cons h
  have hread := @hr (2 * (text v).length + 1) [] (by omega) .nil
  rw [List.append_nil] at hread
  rw [read?, String.length_ofList, String.toList_ofList]
  have hskip : skipSpace (text v) = text v := by rw [hc, skipSpace_cons hs]
  rw [hskip, hread]
  rfl

/-- Exact data is read back from its written form. -/
theorem read?_text {v : Value} (h : v.Exact) : read? (String.ofList (text v)) = some v :=
  read?_of_reads h.legible (reads_exact h)

/-- An exact entry of a dictionary is read back, whatever stands beside it. -/
theorem read?_field {fields : List (String × Value)} (h : (Value.dict fields).Legible)
    {key : String} {v : Value} (hk : Entries.get? fields key = some v) (hv : v.Exact) :
    (read? (String.ofList (text (.dict fields)))).bind (·.field? key) = some v := by
  have hl := h
  cases hl with
  | dict hn hx =>
    have hr : ∀ w ∈ fields.map (·.2), ∃ w', Reads w w' :=
      List.forall_mem_map.mpr fun entry he => exists_reads (hx entry he)
    choose! f hf using hr
    rw [List.forall_mem_map] at hf
    have hself : f v = v := (hf (key, v) (Entries.mem_of_get? hk)).unique (reads_exact hv)
    rw [read?_of_reads h (reads_dict hn hx hf), Option.bind_some, Value.field?]
    change Entries.get? (fields.map fun entry => (entry.1, f entry.2)) key = some v
    rw [Entries.get?_map, hk, Option.map_some, hself]

/-! ## Written forms -/

theorem encode?_legible {v : Value} (h : v.Legible) :
    encode? v = some (String.ofList (text v)) := by
  refine if_pos ?_
  induction h with
  | null => rfl
  | bool => rfl
  | int => rfl
  | float => rfl
  | str => rfl
  | list _ ih => exact (allEncodable_eq_all _).trans (List.all_eq_true.mpr ih)
  | dict _ _ ih => exact (fieldsEncodable_eq_all _).trans (List.all_eq_true.mpr ih)

theorem encode?_exact {v : Value} (h : v.Exact) : encode? v = some (String.ofList (text v)) :=
  encode?_legible h.legible

theorem text_injective {v w : Value} (hv : v.Exact) (hw : w.Exact) (h : text v = text w) :
    v = w := by
  have hr := read?_text hv
  rw [h, read?_text hw] at hr
  exact (Option.some.inj hr).symm

end Json

end AgentReporting
