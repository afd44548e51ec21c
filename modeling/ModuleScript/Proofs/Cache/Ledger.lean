import ModuleScript.Proofs.Cache.Holding

/-!
# The order of eviction

Operations work on a cache in sections during which nothing else does. A ledger follows a cache
through such sections and writes down, since the cache was last cleared, which keys were stored
while they were absent and which were evicted. Whatever the sections are, the stored keys are the
evicted ones followed by those that are left: keys leave in the order in which they came.
-/

namespace ModuleScript

/-! ### Keys -/

namespace Cache

variable {α : Type}

theorem length_keys (c : Cache α) : c.keys.length = c.size := by
  simp [keys, size, Table.keys, Table.size]

/-- The oldest keys are evicted. -/
theorem keys_evict (c : Cache α) : c.evict.keys = c.keys.drop (c.size - c.capacity) :=
  List.map_drop

/-- After an eviction the capacity is not exceeded. -/
theorem size_evict_le (c : Cache α) : c.evict.size ≤ c.capacity := by
  have hsize : c.evict.size = c.size - (c.size - c.capacity) := List.length_drop
  omega

/-- A value that has just been stored is found, since there is room for it. -/
theorem find?_store {c : Cache α} (hroom : 0 < c.capacity) (hbound : c.size ≤ c.capacity)
    (key : String) (value : α) : (c.store key value).find? key = some value := by
  cases h : c.find? key with
  | none => exact find?_store_self value hroom h
  | some old =>
    -- the key replaces its own value, so nothing is beyond the capacity
    have hkeys : (c.table.insert key value).keys = c.keys := by
      have hlisted : key ∈ c.table.keys := List.mem_map_of_mem (mem_entries_of_find? h)
      rw [Table.keys_insert, if_pos hlisted]
      rfl
    have hsize : (c.table.insert key value).size - c.capacity = 0 := by
      have hlength := congrArg List.length hkeys
      rw [length_keys] at hlength
      simp only [Table.keys, List.length_map] at hlength
      simp only [Table.size]
      omega
    have htable : (c.store key value).table = c.table.insert key value := by
      change Table.mk (List.drop ((c.table.insert key value).size - c.capacity) _) = _
      rw [hsize, List.drop_zero]
    rw [find?, htable]
    exact c.table.find?_insert_self key value

/-! ### Sections -/

/-- What is done to a cache while nothing else works on it. -/
inductive Section (α : Type) where
  /-- A key is looked up, and nothing is counted. -/
  | look
  /-- A key is looked up with success. -/
  | hit
  /-- A key is looked up in vain. -/
  | miss
  | store (key : String) (value : α)
  | resize (given : Int)
  | clear

namespace Section

/-- The cache after a section; a capacity that is refused changes nothing. -/
def apply (c : Cache α) : Section α → Cache α
  | look => c
  | hit => c.countHit
  | miss => c.countMiss
  | store key value => c.store key value
  | resize given => (c.resize given).toOption.getD c
  | clear => c.clear

/-- The key that a section stores while it is absent. -/
def newKeys (c : Cache α) : Section α → List String
  | store key _ => if key ∈ c.keys then [] else [key]
  | look | hit | miss | resize _ | clear => []

/-- A new capacity keeps what came last and leaves room for it. -/
private theorem exists_keys_resize (c : Cache α) (given : Int) (hroom : 0 < c.capacity)
    (hbound : c.size ≤ c.capacity) :
    let next := (c.resize given).toOption.getD c
    0 < next.capacity ∧ next.size ≤ next.capacity ∧ ∃ n, next.keys = c.keys.drop n := by
  cases h : c.resize given with
  | error fault => exact ⟨hroom, hbound, 0, rfl⟩
  | ok next =>
    obtain ⟨hpos, rfl⟩ := resize_eq_ok h
    refine ⟨?_, size_evict_le _, _, keys_evict _⟩
    change 0 < given.toNat
    omega

/-- Unless a cache is cleared, it keeps what came last, and there is room for it. -/
theorem exists_keys_apply {c : Cache α} {s : Section α} (h : s ≠ clear) (hroom : 0 < c.capacity)
    (hbound : c.size ≤ c.capacity) :
    0 < (s.apply c).capacity ∧ (s.apply c).size ≤ (s.apply c).capacity ∧
      ∃ n, (s.apply c).keys = (c.keys ++ s.newKeys c).drop n := by
  have same : ∃ n, c.keys = (c.keys ++ []).drop n := ⟨0, (List.append_nil _).symm⟩
  cases s with
  | look => exact ⟨hroom, hbound, same⟩
  | hit => exact ⟨hroom, hbound, same⟩
  | miss => exact ⟨hroom, hbound, same⟩
  | store key value =>
    have hkeys : (c.table.insert key value).keys = c.keys ++ newKeys c (store key value) := by
      rw [Table.keys_insert, newKeys]
      change (if key ∈ c.keys then c.keys else c.keys ++ [key]) = _
      split
      · rw [List.append_nil]
      · rfl
    refine ⟨hroom, size_evict_le _, (c.table.insert key value).size - c.capacity, ?_⟩
    rw [← hkeys]
    exact keys_evict _
  | resize given =>
    rw [newKeys, List.append_nil]
    exact exists_keys_resize c given hroom hbound
  | clear => exact absurd rfl h

/-- No section stores a key that is listed already. -/
theorem nodup_append_newKeys {c : Cache α} (h : c.keys.Nodup) (s : Section α) :
    (c.keys ++ s.newKeys c).Nodup := by
  cases s with
  | store key value =>
    rw [newKeys]
    split
    next => rwa [List.append_nil]
    next hnew =>
      refine List.nodup_append.mpr ⟨h, by simp, ?_⟩
      rintro a ha b hb rfl
      exact hnew (List.mem_singleton.mp hb ▸ ha)
  | _ => simpa [newKeys] using h

end Section

/-! ### Ledgers -/

/-- A cache, and what has become of its keys since it was last cleared. -/
structure Ledger (α : Type) where
  cache : Cache α
  /-- The keys that were stored while they were absent, in this order. -/
  stored : List String := []
  /-- The keys that were evicted, in this order. -/
  evicted : List String := []

namespace Ledger

/-- The ledger after a section. Evicted are the keys that were listed or have just been stored and
are listed no more. -/
def after (l : Ledger α) : Section α → Ledger α
  | .clear => { cache := l.cache.clear }
  | s =>
    { cache := s.apply l.cache
      stored := l.stored ++ s.newKeys l.cache
      evicted := l.evicted ++
        (l.cache.keys ++ s.newKeys l.cache).filter (· ∉ (s.apply l.cache).keys) }

/-- The ledger after some sections. -/
def run (l : Ledger α) (sections : List (Section α)) : Ledger α := sections.foldl after l

/-- The capacity is positive and not exceeded, no key is listed twice, and the stored keys are the
evicted ones followed by those that are left. -/
structure Orderly (l : Ledger α) : Prop where
  roomy : 0 < l.cache.capacity
  bounded : l.cache.size ≤ l.cache.capacity
  nodup : l.cache.keys.Nodup
  stored_eq : l.stored = l.evicted ++ l.cache.keys

variable {l : Ledger α}

/-- A ledger follows its cache. -/
theorem cache_after (l : Ledger α) (s : Section α) : (l.after s).cache = s.apply l.cache := by
  cases s <;> rfl

theorem cache_run (l : Ledger α) (sections : List (Section α)) :
    (l.run sections).cache = sections.foldl (fun c s ↦ s.apply c) l.cache := by
  induction sections generalizing l with
  | nil => rfl
  | cons s sections ih =>
    rw [List.foldl_cons, ← cache_after]
    exact ih (l.after s)

/-- Of different keys, those that are not among the last ones are the first ones. -/
private theorem filter_notMem_drop {keys : List String} (h : keys.Nodup) (n : Nat) :
    keys.filter (· ∉ keys.drop n) = keys.take n := by
  have hdisjoint := List.nodup_append.mp ((List.take_append_drop n keys).symm ▸ h)
  have hfirst : (keys.take n).filter (· ∉ keys.drop n) = keys.take n := by
    refine List.filter_eq_self.mpr fun key hkey ↦ ?_
    simpa using fun hdrop ↦ hdisjoint.2.2 key hkey key hdrop rfl
  have hlast : (keys.drop n).filter (· ∉ keys.drop n) = [] := by
    refine List.filter_eq_nil_iff.mpr fun key hkey ↦ ?_
    simpa using hkey
  calc keys.filter (· ∉ keys.drop n)
      = (keys.take n ++ keys.drop n).filter (· ∉ keys.drop n) := by
        rw [List.take_append_drop]
    _ = keys.take n := by rw [List.filter_append, hfirst, hlast, List.append_nil]

theorem orderly_of_ofCapacity? {given : Int} {c : Cache α} (h : ofCapacity? given = .ok c) :
    Orderly { cache := c } := by
  rw [ofCapacity?, checkCapacity] at h
  split at h
  next => exact absurd h (by simp [bind, Except.bind])
  next hpos =>
    obtain rfl := Except.ok.inj h
    have hcapacity : 0 < given.toNat := by omega
    exact ⟨hcapacity, Nat.zero_le _, List.nodup_nil, rfl⟩

/-- Every section leaves a ledger orderly. -/
theorem Orderly.after (h : l.Orderly) (s : Section α) : (l.after s).Orderly := by
  by_cases hclear : s = .clear
  · subst hclear
    exact ⟨h.roomy, Nat.zero_le _, List.nodup_nil, rfl⟩
  · obtain ⟨hroom, hbound, n, hkeys⟩ := Section.exists_keys_apply hclear h.roomy h.bounded
    have hnodup := Section.nodup_append_newKeys h.nodup s
    have hlost : (l.cache.keys ++ s.newKeys l.cache).filter (· ∉ (s.apply l.cache).keys) =
        (l.cache.keys ++ s.newKeys l.cache).take n := by
      rw [hkeys]
      exact filter_notMem_drop hnodup n
    have hafter : l.after s = {
        cache := s.apply l.cache
        stored := l.stored ++ s.newKeys l.cache
        evicted := l.evicted ++ (l.cache.keys ++ s.newKeys l.cache).take n } := by
      rw [← hlost]
      cases s <;> first | rfl | exact absurd rfl hclear
    rw [hafter]
    refine ⟨hroom, hbound, ?_, ?_⟩
    · rw [hkeys]
      exact hnodup.sublist (List.drop_sublist _ _)
    · change l.stored ++ _ = l.evicted ++ _ ++ (s.apply l.cache).keys
      rw [hkeys, List.append_assoc, List.take_append_drop, h.stored_eq, List.append_assoc]

/-- So do any sections, in whatever order they follow one another. -/
theorem Orderly.run (h : l.Orderly) (sections : List (Section α)) : (l.run sections).Orderly := by
  induction sections generalizing l with
  | nil => exact h
  | cons s sections ih => exact ih (h.after s)

end Ledger

end Cache

end ModuleScript
