import ModuleScript.Proofs.Cache.Ledger
import ModuleScript.Session

/-!
# The caches of a session

A cache is shared under the name of its partition, or it is one of the session's own. Whatever is
done to it in one section leaves the other caches alone, and leaves it within its capacity.
-/

namespace ModuleScript

/-! ### Caches within their capacity -/

namespace Cache

variable {α : Type} {c : Cache α}

/-- There is room in a cache, it does not hold more than that, and it lists no key twice. -/
structure Bounded (c : Cache α) : Prop where
  roomy : 0 < c.capacity
  size_le : c.size ≤ c.capacity
  nodup : c.keys.Nodup

/-- A section leaves a cache within its capacity. -/
theorem Bounded.apply (h : c.Bounded) (s : Section α) : (s.apply c).Bounded := by
  have horderly : Ledger.Orderly { cache := c, stored := c.keys } :=
    ⟨h.roomy, h.size_le, h.nodup, rfl⟩
  obtain ⟨hroom, hbound, hnodup, -⟩ := horderly.after s
  rw [Ledger.cache_after] at hroom hbound hnodup
  exact ⟨hroom, hbound, hnodup⟩

/-- A new cache is within its capacity. -/
theorem Bounded.of_ofCapacity? {given : Int} (h : ofCapacity? given = .ok c) : c.Bounded :=
  have horderly := Ledger.orderly_of_ofCapacity? h
  ⟨horderly.roomy, horderly.bounded, horderly.nodup⟩

/-- A key that is listed keeps its place when a value is stored under it, and nothing is evicted. A
new key is listed last, and if the cache was full the oldest key is evicted for it. -/
theorem Bounded.keys_store (h : c.Bounded) (key : String) (value : α) :
    (c.store key value).keys =
      if key ∈ c.keys then c.keys
      else if c.size = c.capacity then c.keys.tail ++ [key]
      else c.keys ++ [key] := by
  have hbound : c.keys.length ≤ c.capacity := c.length_keys ▸ h.size_le
  have hroom := h.roomy
  have hevict : (c.store key value).keys =
      (c.table.insert key value).keys.drop
        ((c.table.insert key value).keys.length - c.capacity) := by
    have hlength := length_keys { c with table := c.table.insert key value }
    rw [store, keys_evict, ← hlength]
    rfl
  have hinsert : (c.table.insert key value).keys =
      if key ∈ c.keys then c.keys else c.keys ++ [key] := c.table.keys_insert key value
  rw [hevict, hinsert, ← c.length_keys]
  by_cases hlisted : key ∈ c.keys
  · have hdrop : c.keys.length - c.capacity = 0 := by omega
    rw [if_pos hlisted, if_pos hlisted, hdrop, List.drop_zero]
  · have hlength : (c.keys ++ [key]).length = c.keys.length + 1 := List.length_append
    rw [if_neg hlisted, if_neg hlisted, hlength, List.drop_append_of_le_length (by omega)]
    split
    next hfull =>
      have hdrop : c.keys.length + 1 - c.capacity = 1 := by omega
      rw [hdrop, List.drop_one]
    next hspare =>
      have hdrop : c.keys.length + 1 - c.capacity = 0 := by omega
      rw [hdrop, List.drop_zero]

end Cache

namespace Session

/-! ### Sites -/

/-- Where a cache is: shared under the name of its partition, or among the session's own. -/
inductive Site where
  | shared (name : String)
  | own (place : Nat)
  deriving DecidableEq, Repr

/-- The slot of a cache. -/
def Site.slot : Site → Cache.Slot Session Artifact
  | shared name => partitionSlot name
  | own place => cacheSlot place

/-- Whether there is a cache. A partition is there whenever it is asked for. -/
def Site.Exists (s : Session) : Site → Prop
  | shared _ => True
  | own place => place < s.caches.size

/-- The cache at a site. -/
def cacheAt (s : Session) (site : Site) : Cache Artifact := site.slot.read s

/-- The session with a cache put back at its site. -/
def setCacheAt (s : Session) (site : Site) (c : Cache Artifact) : Session := site.slot.write c s

/-- The session after a section on one of its caches. -/
def perform (s : Session) (site : Site) (sec : Cache.Section Artifact) : Session :=
  s.setCacheAt site (sec.apply (s.cacheAt site))

/-- The session after all shared caches were cleared. -/
def clearShared (s : Session) : Session := { s with store := s.store.clear }

variable {s : Session} {site other : Site} {c : Cache Artifact}

/-- What is put back at a site is there. -/
theorem cacheAt_setCacheAt_self (h : site.Exists s) : (s.setCacheAt site c).cacheAt site = c := by
  cases site with
  | shared name => exact s.store.partition_setPartition_self name c
  | own place =>
    change (s.caches.setIfInBounds place c).getD place _ = c
    rw [Array.getD_eq_getD_getElem?, Array.getElem?_setIfInBounds_self_of_lt h, Option.getD_some]

/-- The caches at other sites stay. -/
theorem cacheAt_setCacheAt_of_ne (h : site ≠ other) :
    (s.setCacheAt site c).cacheAt other = s.cacheAt other := by
  cases site with
  | shared name =>
    cases other with
    | shared name' =>
      exact s.store.partition_setPartition_of_ne c fun hname ↦ h (congrArg Site.shared hname)
    | own place => rfl
  | own place =>
    cases other with
    | shared name => rfl
    | own place' =>
      have hplace : place ≠ place' := fun hplace ↦ h (congrArg Site.own hplace)
      change (s.caches.setIfInBounds place c).getD place' _ = s.caches.getD place' _
      rw [Array.getD_eq_getD_getElem?, Array.getElem?_setIfInBounds_ne hplace,
        ← Array.getD_eq_getD_getElem?]

/-- Nothing changes where there is no cache. -/
theorem setCacheAt_of_not_exists (h : ¬site.Exists s) : s.setCacheAt site c = s := by
  cases site with
  | shared name => exact absurd trivial h
  | own place =>
    have hsame : s.caches.setIfInBounds place c = s.caches :=
      Array.setIfInBounds_eq_of_size_le (Nat.le_of_not_lt h)
    change { s with caches := s.caches.setIfInBounds place c } = s
    rw [hsame]

theorem exists_setCacheAt (h : other.Exists s) : other.Exists (s.setCacheAt site c) := by
  cases other with
  | shared name => trivial
  | own place =>
    cases site with
    | shared name => exact h
    | own place' =>
      change place < (s.caches.setIfInBounds place' c).size
      rw [Array.size_setIfInBounds]
      exact h

/-- The cache that is made is at its place, and the others stay where they are. -/
theorem cacheAt_addCache (s : Session) (c : Cache Artifact) (site : Site) :
    (s.addCache c).2.cacheAt site =
      if site = .own (s.addCache c).1 then c else s.cacheAt site := by
  cases site with
  | shared name => rfl
  | own place =>
    change (s.caches.push c).getD place _ =
      if Site.own place = .own s.caches.size then c else s.caches.getD place _
    rw [Array.getD_eq_getD_getElem?, Array.getElem?_push, Array.getD_eq_getD_getElem?]
    simp only [Site.own.injEq]
    split <;> rfl

/-- Shared caches are cleared together. -/
theorem cacheAt_clearShared (s : Session) (name : String) :
    s.clearShared.cacheAt (.shared name) = (s.cacheAt (.shared name)).clear :=
  s.store.partition_clear name

/-! ### What lasts -/

/-- A property of sessions that survives whatever is done to their caches. -/
structure Stable (P : Session → Prop) : Prop where
  perform {s : Session} (site : Site) (sec : Cache.Section Artifact) : P s → P (s.perform site sec)
  addCache {s : Session} {c : Cache Artifact} : c.Bounded → P s → P (s.addCache c).2
  clearShared {s : Session} : P s → P s.clearShared

/-- Caches stay where they are. -/
theorem stable_exists (site : Site) : Stable site.Exists where
  perform other sec h := exists_setCacheAt h
  addCache {s c} _ h := by
    cases site with
    | shared name => trivial
    | own place =>
      change place < (s.caches.push c).size
      rw [Array.size_push]
      exact Nat.lt_succ_of_lt h
  clearShared {s} h := by
    cases site with
    | shared name => trivial
    | own place => exact h

/-- All caches of a session are within their capacities. -/
def Bounded (s : Session) : Prop := ∀ site, (s.cacheAt site).Bounded

/-- So they are when nothing has happened. -/
theorem bounded_empty : Bounded {} := by
  have hnew (given : Int) (h : 0 < given) :
      ({ capacity := given.toNat } : Cache Artifact).Bounded := by
    have hmade : Cache.ofCapacity? given = .ok ({ capacity := given.toNat } : Cache Artifact) := by
      rw [Cache.ofCapacity?, Cache.checkCapacity, if_neg (by omega)]
      rfl
    exact .of_ofCapacity? hmade
  intro site
  cases site with
  | shared name =>
    change Cache.Bounded { capacity := Store.defaultCapacity name }
    rw [Store.defaultCapacity]
    split
    · exact hnew 50 (by decide)
    · exact hnew 100 (by decide)
  | own place => exact hnew 100 (by decide)

/-- Sections, new caches and the clearing of the shared ones leave them so. -/
theorem stable_bounded : Stable Bounded where
  perform {s} site sec h other := by
    by_cases hexists : site.Exists s
    · by_cases hsite : site = other
      · subst hsite
        rw [Session.perform, cacheAt_setCacheAt_self hexists]
        exact (h site).apply sec
      · rw [Session.perform, cacheAt_setCacheAt_of_ne hsite]
        exact h other
    · rw [Session.perform, setCacheAt_of_not_exists hexists]
      exact h other
  addCache {s c} hc h site := by
    rw [cacheAt_addCache]
    split
    · exact hc
    · exact h site
  clearShared {s} h site := by
    cases site with
    | shared name =>
      rw [cacheAt_clearShared]
      exact (h (.shared name)).apply .clear
    | own place => exact h (.own place)

end Session

end ModuleScript
