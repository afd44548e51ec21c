import ModuleScript.Data.Table

/-!
# Bounded memo tables

A cache keeps at most `capacity` values under their keys. When it is full, storing a new key
evicts the key that was inserted first; storing a present key replaces its value and keeps its
place. A cache counts the look-ups that found a value and those that had to compute one.
-/

namespace ModuleScript

/-- A bounded memo table, oldest keys first (`ContentCache`). -/
structure Cache (α : Type) where
  capacity : Nat
  table : Table String α := ∅
  hits : Nat := 0
  misses : Nat := 0

namespace Cache

variable {α : Type}

/-- A capacity that is not positive is refused. -/
inductive Fault where
  | capacityNotPositive (given : Int)
  deriving DecidableEq, Repr

/-- The wording of a refusal. -/
def Fault.message : Fault → String
  | .capacityNotPositive given => s!"Cache capacity must be positive, got {given}"

/-- Only positive capacities are accepted. -/
def checkCapacity (given : Int) : Except Fault Nat :=
  if given ≤ 0 then .error (.capacityNotPositive given) else .ok given.toNat

/-- An empty cache. -/
def ofCapacity? (given : Int) : Except Fault (Cache α) := do
  return { capacity := ← checkCapacity given }

/-- The keys in the order of eviction (`keys`). -/
def keys (c : Cache α) : List String := c.table.keys

/-- The number of keys (`size`). -/
def size (c : Cache α) : Nat := c.table.size

/-- The value of a key. -/
def find? (c : Cache α) (key : String) : Option α := c.table.find? key

/-- Whether a key is present. -/
def contains (c : Cache α) (key : String) : Bool := c.table.contains key

/-- Drop the oldest keys beyond the capacity. -/
def evict (c : Cache α) : Cache α :=
  { c with table := ⟨c.table.entries.drop (c.size - c.capacity)⟩ }

/-- Keep a value under a key (`_store`). -/
def store (c : Cache α) (key : String) (value : α) : Cache α :=
  { c with table := c.table.insert key value }.evict

/-- Change the capacity (`resize`). -/
def resize (c : Cache α) (given : Int) : Except Fault (Cache α) := do
  return { c with capacity := ← checkCapacity given }.evict

/-- Forget all keys and counts (`clear`). -/
def clear (c : Cache α) : Cache α := { capacity := c.capacity }

/-- Count a look-up that found a value. -/
def countHit (c : Cache α) : Cache α := { c with hits := c.hits + 1 }

/-- Count a look-up that found none. -/
def countMiss (c : Cache α) : Cache α := { c with misses := c.misses + 1 }

end Cache

end ModuleScript
