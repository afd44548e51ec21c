/-!
# Tables in insertion order

A table holds a value for each of its keys and lists them in the order in which the keys were
first inserted. Inserting a key again replaces its value and keeps its place.
-/

namespace ModuleScript

/-- A table in insertion order. -/
structure Table (κ α : Type) where
  entries : List (κ × α) := []
  deriving DecidableEq, Repr

namespace Table

variable {κ α : Type}

/-- The table without keys. -/
def empty : Table κ α := {}

instance : EmptyCollection (Table κ α) := ⟨empty⟩

instance : Inhabited (Table κ α) := ⟨empty⟩

/-- The keys in order. -/
def keys (t : Table κ α) : List κ := t.entries.map (·.1)

/-- The values in the order of their keys. -/
def values (t : Table κ α) : List α := t.entries.map (·.2)

/-- The number of keys. -/
def size (t : Table κ α) : Nat := t.entries.length

/-- Change the values and keep the keys. -/
def map {β : Type} (f : α → β) (t : Table κ α) : Table κ β :=
  ⟨t.entries.map fun (key, value) ↦ (key, f value)⟩

variable [DecidableEq κ]

/-- The value of a key. -/
def find? (t : Table κ α) (key : κ) : Option α :=
  (t.entries.find? fun entry ↦ decide (entry.1 = key)).map (·.2)

/-- Whether a key has a value. -/
def contains (t : Table κ α) (key : κ) : Bool := t.entries.any fun entry ↦ decide (entry.1 = key)

/-- Replace the value of a key in its place, or append a new key. -/
def insertInto (key : κ) (value : α) : List (κ × α) → List (κ × α)
  | [] => [(key, value)]
  | (k, v) :: rest =>
    if k = key then (k, value) :: rest else (k, v) :: insertInto key value rest

/-- Give a key a value. -/
def insert (t : Table κ α) (key : κ) (value : α) : Table κ α := ⟨insertInto key value t.entries⟩

/-- The table of a list of pairs, of which later ones prevail. -/
def ofList (pairs : List (κ × α)) : Table κ α :=
  pairs.foldl (fun t (key, value) ↦ t.insert key value) ∅

/-- A key is present after its insertion, with the value inserted. -/
theorem find?_insert_self (t : Table κ α) (key : κ) (value : α) :
    (t.insert key value).find? key = some value := by
  obtain ⟨entries⟩ := t
  simp only [insert, find?]
  induction entries with
  | nil => simp [insertInto]
  | cons entry rest ih =>
    by_cases h : entry.1 = key
    · simp [insertInto, h]
    · simpa [insertInto, h] using ih

/-- Insertion leaves the values of other keys alone. -/
theorem find?_insert_of_ne (t : Table κ α) {key other : κ} (value : α) (h : key ≠ other) :
    (t.insert key value).find? other = t.find? other := by
  obtain ⟨entries⟩ := t
  simp only [insert, find?]
  induction entries with
  | nil => simp [insertInto, h]
  | cons entry rest ih =>
    by_cases hk : entry.1 = key
    · simp [insertInto, hk, h]
    · by_cases ho : entry.1 = other
      · simp [insertInto, ho, Ne.symm h]
      · simpa [insertInto, hk, ho] using ih

end Table

end ModuleScript
