/-! # Ordered dictionaries

Entries keep the order in which their keys first appeared. Writing to a key that
is present changes its value and not its place.
-/

namespace AgentReporting

/-- A dictionary with text keys, in insertion order. -/
abbrev Entries (α : Type) := List (String × α)

namespace Entries

variable {α : Type}

def get? (entries : Entries α) (key : String) : Option α :=
  entries.lookup key

def has (entries : Entries α) (key : String) : Bool :=
  (get? entries key).isSome

def keys (entries : Entries α) : List String :=
  entries.map (·.1)

/-- Writes `value` under `key`. -/
def put (entries : Entries α) (key : String) (value : α) : Entries α :=
  match entries with
  | [] => [(key, value)]
  | (k, v) :: rest => if k = key then (k, value) :: rest else (k, v) :: put rest key value

def erase (entries : Entries α) (key : String) : Entries α :=
  entries.filter fun entry => entry.1 != key

/-- Writes every entry of `others`, in order. -/
def merge (entries others : Entries α) : Entries α :=
  others.foldl (fun merged entry => put merged entry.1 entry.2) entries

/-- The dictionary that a list of pairs describes; of equal keys the last value counts. -/
def ofList (pairs : List (String × α)) : Entries α :=
  merge [] pairs

@[simp] theorem get?_nil (key : String) : get? ([] : Entries α) key = none := rfl

theorem get?_cons (k : String) (v : α) (rest : Entries α) (key : String) :
    get? ((k, v) :: rest) key = if key = k then some v else get? rest key := by
  by_cases h : key = k
  · simp [get?, h]
  · have : (key == k) = false := by simpa using h
    simp [get?, List.lookup_cons, h, this]

@[simp] theorem get?_put (entries : Entries α) (key other : String) (value : α) :
    get? (put entries key value) other =
      if other = key then some value else get? entries other := by
  induction entries with
  | nil => simp [put, get?_cons]
  | cons entry rest ih =>
    obtain ⟨k, v⟩ := entry
    simp only [put]
    split
    · rename_i hk
      subst hk
      simp only [get?_cons]
      split <;> rfl
    · simp only [get?_cons, ih]
      split <;> split <;> simp_all

end Entries

end AgentReporting
