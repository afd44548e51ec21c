import ModuleScript.Framework.Engine
import ModuleScript.ImportMap.Change

/-!
# Sessions

A session holds what outlives a single call: import maps and registries, which may change while
renderers and engines refer to them, caches of its own, and the shared caches. Everything is
referred to by its place.
-/

namespace ModuleScript

/-- Import maps, registries, own caches and the shared caches. -/
structure Session where
  maps : Array ImportMap := #[]
  registries : Array Registry := #[.bundled]
  caches : Array (Cache Artifact) := #[]
  store : Store := {}

namespace Session

/-- The registry that is used when none is named (`default_registry`). -/
def defaultRegistry : Nat := 0

/-- The map at a place. -/
def map (s : Session) (place : Nat) : ImportMap := s.maps.getD place {}

/-- The registry at a place. -/
def registry (s : Session) (place : Nat) : Registry := s.registries.getD place {}

/-- The cache at a place. -/
def cache (s : Session) (place : Nat) : Cache Artifact :=
  s.caches.getD place { capacity := Store.defaultCapacity "" }

/-- Add a map; its place is the number of maps before. -/
def addMap (s : Session) (m : ImportMap) : Nat × Session :=
  (s.maps.size, { s with maps := s.maps.push m })

/-- Add a registry; its place is the number of registries before. -/
def addRegistry (s : Session) (r : Registry) : Nat × Session :=
  (s.registries.size, { s with registries := s.registries.push r })

/-- Add a cache; its place is the number of caches before. -/
def addCache (s : Session) (c : Cache Artifact) : Nat × Session :=
  (s.caches.size, { s with caches := s.caches.push c })

/-- Put a map in the place of another. -/
def setMap (s : Session) (place : Nat) (m : ImportMap) : Session :=
  { s with maps := s.maps.setIfInBounds place m }

/-- Put a registry in the place of another. -/
def setRegistry (s : Session) (place : Nat) (r : Registry) : Session :=
  { s with registries := s.registries.setIfInBounds place r }

/-- Change the map at a place. -/
def changeMap (s : Session) (place : Nat) (c : ImportMap.Change) :
    Except ImportMap.Fault Session := do
  return s.setMap place (← (s.map place).change? c)

/-- Register a framework with the registry at a place. -/
def register (compile : String → Except Pattern.Fault Pattern) (s : Session) (place : Nat)
    (q : Registry.Request) : Except Registry.Fault Session := do
  return s.setRegistry place (← (s.registry place).register compile q)

/-- The slot of a shared partition. -/
def partitionSlot (name : String) : Cache.Slot Session Artifact where
  read s := (Store.slot name).read s.store
  write cache s := { s with store := (Store.slot name).write cache s.store }

/-- The slot of an own cache. -/
def cacheSlot (place : Nat) : Cache.Slot Session Artifact where
  read s := s.cache place
  write cache s := { s with caches := s.caches.setIfInBounds place cache }

/-- Run a computation on the shared caches. -/
def runShared {ε α : Type} (s : Session) (run : ExceptT ε (StateM Store) α) :
    Except ε α × Session :=
  let (result, store) := run.run s.store
  (result, { s with store })

end Session

end ModuleScript
