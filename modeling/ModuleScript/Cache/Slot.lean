import ModuleScript.Cache.Basic

/-!
# Looking up or computing

A cache sits in a slot of a larger state, and a computation may change that state, the cache
included. Looking up a key therefore reads the slot, and on a miss reads it again after the
computation has run; a computation that fails leaves nothing but its own effects and the
counted miss.
-/

namespace ModuleScript.Cache

/-- Where a cache is kept within a state. -/
structure Slot (σ α : Type) where
  read : σ → Cache α
  write : Cache α → σ → σ

/-- The slot within a state that holds the slot's own state. -/
def Slot.within {σ τ α : Type} (slot : Slot σ α) (read : τ → σ) (write : σ → τ → τ) :
    Slot τ α where
  read t := slot.read (read t)
  write cache t := write (slot.write cache (read t)) t

/-- The value of a key, computed and stored on a miss (`get_or_compute`). -/
def Slot.getOrCompute {σ α ε : Type} (slot : Slot σ α) (key : String)
    (compute : ExceptT ε (StateM σ) α) : ExceptT ε (StateM σ) α := do
  let cache := slot.read (← get)
  match cache.find? key with
  | some value =>
    modify (slot.write cache.countHit)
    return value
  | none =>
    modify (slot.write cache.countMiss)
    let value ← compute
    modify fun s ↦ slot.write ((slot.read s).store key value) s
    return value

end ModuleScript.Cache
