import ModuleScript.Cache.Store
import ModuleScript.Proofs.Data.Table

/-!
# What the shared caches hold

A condition on entries holds of a whole store when it holds of every entry of every partition. It
survives counting, eviction, new capacities and clearing, none of which brings a new entry, and it
survives a look-up whose computation gives nothing but values that meet it.
-/

namespace ModuleScript

/-! ### Entries of one cache -/

namespace Cache

variable {α : Type}

/-- The entries of a cache. -/
def entries (c : Cache α) : List (String × α) := c.table.entries

@[simp] theorem entries_clear (c : Cache α) : c.clear.entries = [] := rfl

/-- The value that is found for a key is one of its entries. -/
theorem mem_entries_of_find? {c : Cache α} {key : String} {value : α}
    (h : c.find? key = some value) : (key, value) ∈ c.entries := Table.mem_of_find? h

/-- Eviction brings no entry. -/
theorem mem_of_mem_evict {c : Cache α} {e : String × α} (h : e ∈ c.evict.entries) :
    e ∈ c.entries := List.mem_of_mem_drop h

/-- Storing brings no entry but the stored one. -/
theorem eq_or_mem_of_mem_store {c : Cache α} {key : String} {value : α} {e : String × α}
    (h : e ∈ (c.store key value).entries) : e = (key, value) ∨ e ∈ c.entries :=
  Table.mem_insertInto (mem_of_mem_evict h)

/-- An accepted capacity is positive; the cache then has it and drops what is beyond it. -/
theorem resize_eq_ok {c c' : Cache α} {given : Int} (h : c.resize given = .ok c') :
    0 < given ∧ c' = { c with capacity := given.toNat }.evict := by
  rw [resize, checkCapacity] at h
  split at h
  next => exact absurd h (by simp [bind, Except.bind])
  next hpos => exact ⟨by omega, (Except.ok.inj h).symm⟩

/-- A new capacity brings no entry. -/
theorem mem_of_mem_resize {c c' : Cache α} {given : Int} {e : String × α}
    (hc : c.resize given = .ok c') (h : e ∈ c'.entries) : e ∈ c.entries := by
  obtain ⟨-, rfl⟩ := resize_eq_ok hc
  exact List.mem_of_mem_drop h

/-- A key that is new is the last one to be evicted. -/
theorem find?_store_self {c : Cache α} {key : String} (value : α) (hroom : 0 < c.capacity)
    (h : c.find? key = none) : (c.store key value).find? key = some value := by
  have hnew := Table.insertInto_of_find?_eq_none value h
  have hevict : (c.store key value).entries =
      c.entries.drop (c.entries.length + 1 - c.capacity) ++ [(key, value)] := by
    change (Table.insertInto key value c.table.entries).drop
      ((Table.insertInto key value c.table.entries).length - c.capacity) = _
    rw [hnew, List.length_append, List.drop_append_of_le_length]
    · rfl
    · change c.table.entries.length + 1 - c.capacity ≤ c.table.entries.length
      omega
  have hdropped : (c.entries.drop (c.entries.length + 1 - c.capacity)).find?
      (fun e ↦ decide (e.1 = key)) = none := by
    refine List.find?_eq_none.mpr fun e he ↦ ?_
    exact List.find?_eq_none.mp (Option.map_eq_none_iff.mp h) e (List.mem_of_mem_drop he)
  change ((c.store key value).entries.find? fun e ↦ decide (e.1 = key)).map (·.2) = _
  rw [hevict, List.find?_append, hdropped]
  simp

/-- A computation goes on with the value of the one before, in the state that it left. -/
theorem run_bind {σ α β ε : Type} (x : ExceptT ε (StateM σ) α) (f : α → ExceptT ε (StateM σ) β)
    (s : σ) : (x >>= f).run s =
      match x.run s with
      | (.ok value, s') => (f value).run s'
      | (.error fault, s') => (.error fault, s') := by
  change (x.run >>= ExceptT.bindCont f) s = _
  change (let (r, s') := x.run s; (ExceptT.bindCont f r) s') = _
  rcases x.run s with ⟨value | fault, s'⟩ <;> rfl

/-- Looking a key up gives its value, or runs the computation and stores what it gives. -/
theorem Slot.run_getOrCompute {σ α ε : Type} (slot : Slot σ α) (key : String)
    (compute : ExceptT ε (StateM σ) α) (s : σ) :
    (slot.getOrCompute key compute).run s =
      match (slot.read s).find? key with
      | some value => (.ok value, slot.write (slot.read s).countHit s)
      | none =>
        match compute.run (slot.write (slot.read s).countMiss s) with
        | (.ok value, s') => (.ok value, slot.write ((slot.read s').store key value) s')
        | (.error fault, s') => (.error fault, s') := by
  have hunfold : (slot.getOrCompute key compute).run s =
      (match (slot.read s).find? key with
        | some value => do
          modify (slot.write (slot.read s).countHit)
          return value
        | none => do
          modify (slot.write (slot.read s).countMiss)
          let value ← compute
          modify fun s ↦ slot.write ((slot.read s).store key value) s
          return value : ExceptT ε (StateM σ) α).run s := rfl
  rw [hunfold]
  cases (slot.read s).find? key with
  | some value => rfl
  | none =>
    change (compute >>= _ : ExceptT ε (StateM σ) α).run _ = _
    rw [run_bind]
    rcases compute.run (slot.write (slot.read s).countMiss s) with ⟨value | fault, s'⟩ <;> rfl

end Cache

namespace Store

/-- A partition that was put back is what was put there. -/
@[simp] theorem partition_setPartition_self (s : Store) (name : String) (c : Cache Artifact) :
    (s.setPartition name c).partition name = c := by
  rw [partition, setPartition, Table.find?_insert_self, Option.getD_some]

/-- The other partitions stay. -/
theorem partition_setPartition_of_ne (s : Store) {name other : String} (c : Cache Artifact)
    (h : name ≠ other) : (s.setPartition name c).partition other = s.partition other := by
  rw [partition, partition, setPartition, Table.find?_insert_of_ne _ _ h]

/-- What holds of all partitions holds of them after one is put back, if it holds of that one. -/
theorem forall_setPartition {Q : String → Cache Artifact → Prop} {s : Store}
    (h : ∀ name, Q name (s.partition name)) {name : String} {c : Cache Artifact} (hc : Q name c)
    (other : String) : Q other ((s.setPartition name c).partition other) := by
  by_cases hname : name = other
  · subst hname
    rw [partition_setPartition_self]
    exact hc
  · rw [partition_setPartition_of_ne s c hname]
    exact h other

/-- Clearing empties each partition. -/
theorem partition_clear (s : Store) (name : String) :
    s.clear.partition name = (s.partition name).clear := by
  have hfind : s.clear.partitions.find? name = (s.partitions.find? name).map Cache.clear := by
    obtain ⟨⟨entries⟩⟩ := s
    simp only [clear, Table.map, Table.find?, List.find?_map, Option.map_map]
    rfl
  rw [partition, partition, hfind]
  cases s.partitions.find? name <;> rfl

/-- A property of stores that survives the management of their partitions. -/
structure Stable (P : Store → Prop) : Prop where
  configure {s : Store} (name : String) (capacity : Int) : P s → P (s.configure name capacity).2
  clearPartition {s : Store} (name : String) : P s → P (s.clearPartition name)
  clear {s : Store} : P s → P s.clear

/-- A condition on the entries of partitions, by name of the partition, key and value. -/
abbrev Condition := String → String → Artifact → Prop

/-- Every entry of every partition meets the condition. -/
def Holds (ok : Condition) (s : Store) : Prop :=
  ∀ name key value, (key, value) ∈ (s.partition name).entries → ok name key value

variable {ok : Condition} {s : Store}

/-- Putting back a partition whose entries meet the condition. -/
theorem Holds.setPartition (h : s.Holds ok) {name : String} {c : Cache Artifact}
    (hc : ∀ key value, (key, value) ∈ c.entries → ok name key value) :
    (s.setPartition name c).Holds ok :=
  forall_setPartition (Q := fun name c ↦ ∀ key value, (key, value) ∈ c.entries → ok name key value)
    h hc

/-- A partition that comes into being is empty. -/
theorem Holds.touch (h : s.Holds ok) (name : String) : (s.touch name).Holds ok :=
  h.setPartition (h name)

/-- New capacities bring no entry. -/
theorem Holds.configure (h : s.Holds ok) (name : String) (capacity : Int) :
    (s.configure name capacity).2.Holds ok := by
  rw [Store.configure]
  split
  next c hc =>
    refine h.setPartition fun key value hmem ↦ ?_
    exact h name key value (Cache.mem_of_mem_resize hc hmem)
  next => exact h.touch name

/-- A partition that is emptied has no entries. -/
theorem Holds.clearPartition (h : s.Holds ok) (name : String) :
    (s.clearPartition name).Holds ok :=
  h.setPartition fun key value hmem ↦ absurd hmem (by simp)

/-- A store in which nothing is kept. -/
def Cold (s : Store) : Prop := ∀ name, (s.partition name).entries = []

/-- Where nothing is kept, all entries meet every condition. -/
theorem Cold.holds (h : s.Cold) (ok : Condition) : s.Holds ok := by
  intro name key value hmem
  rw [h name] at hmem
  exact absurd hmem List.not_mem_nil

/-- Where nothing is kept, nothing is found. -/
theorem Cold.find?_partition (h : s.Cold) (name key : String) :
    (s.partition name).find? key = none := by
  rw [Option.eq_none_iff_forall_ne_some]
  intro kept hkept
  have hmem := Cache.mem_entries_of_find? hkept
  rw [h name] at hmem
  exact absurd hmem List.not_mem_nil

theorem cold_clear (s : Store) : s.clear.Cold := fun name ↦ by
  rw [partition_clear, Cache.entries_clear]

theorem cold_empty : Cold {} := fun _ ↦ rfl

/-- Conditions on entries survive the management of partitions. -/
theorem stable_holds (ok : Condition) : Stable (Holds ok) where
  configure name capacity h := h.configure name capacity
  clearPartition name h := h.clearPartition name
  clear {s} _ := s.cold_clear.holds ok

/-! ### Room -/

/-- Every partition has room for an entry. -/
def Roomy (s : Store) : Prop := ∀ name, 0 < (s.partition name).capacity

/-- Putting back a partition with room. -/
theorem Roomy.setPartition (h : s.Roomy) {name : String} {c : Cache Artifact}
    (hc : 0 < c.capacity) : (s.setPartition name c).Roomy :=
  forall_setPartition (Q := fun _ c ↦ 0 < c.capacity) h hc

/-- Partitions come with room. -/
theorem roomy_empty : Roomy {} := by
  intro name
  change 0 < defaultCapacity name
  rw [defaultCapacity]
  split <;> decide

/-- No capacity without room is accepted. -/
theorem stable_roomy : Stable Roomy where
  configure {s} name capacity h := by
    rw [configure]
    split
    next c hc =>
      obtain ⟨hpos, rfl⟩ := Cache.resize_eq_ok hc
      exact h.setPartition (by change 0 < capacity.toNat; omega)
    next => exact h.setPartition (h name)
  clearPartition name h := h.setPartition (h name)
  clear {s} h name := by
    rw [partition_clear]
    exact h name

end Store

end ModuleScript
