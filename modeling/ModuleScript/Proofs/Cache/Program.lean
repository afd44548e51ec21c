import ModuleScript.Proofs.Cache.Ledger

/-!
# Programs on a cache

A program is what a host can do with one cache: operations that go on with what they give, and
look-ups whose computations are programs on the same cache, nested to any depth. Nothing keeps the
cache from being changed while a value is computed, so a run is a sequence of sections in which the
sections of a computation stand between the miss and the storing of its value.
-/

namespace ModuleScript.Cache

variable {α ε : Type}

/-- A program on a cache, whose computations may fail. -/
inductive Program (α ε : Type) where
  | done (result : Except ε α)
  | get (key : String) (next : Option α → Program α ε)
  | contains (key : String) (next : Bool → Program α ε)
  | set (key : String) (value : α) (next : Program α ε)
  | resize (given : Int) (next : Except Fault Unit → Program α ε)
  | clear (next : Program α ε)
  /-- A look-up, with the program that computes the value on a miss. -/
  | getOrCompute (key : String) (compute : Program α ε) (next : Except ε α → Program α ε)

/-- A cache that is the whole state. -/
def Slot.whole : Slot (Cache α) α where
  read c := c
  write cache _ := cache

namespace Program

/-- The result of a program and the cache that it leaves. -/
def run : Program α ε → Cache α → Except ε α × Cache α
  | done result, c => (result, c)
  | get key next, c => (next (c.find? key)).run c
  | contains key next, c => (next (c.contains key)).run c
  | set key value next, c => next.run (c.store key value)
  | resize given next, c =>
    match c.resize given with
    | .ok c => (next (.ok ())).run c
    | .error fault => (next (.error fault)).run c
  | clear next, c => next.run c.clear
  | getOrCompute key compute next, c =>
    let (result, c) := (Slot.whole.getOrCompute key (.mk compute.run)).run c
    (next result).run c

/-- The result of a look-up and the cache that it leaves. -/
def lookUp (key : String) (compute : Program α ε) (c : Cache α) : Except ε α × Cache α :=
  (Slot.whole.getOrCompute key (.mk compute.run)).run c

/-- The sections of a run, in order. A capacity that is refused takes none. -/
def sections : Program α ε → Cache α → List (Section α)
  | done _, _ => []
  | get key next, c => .look :: (next (c.find? key)).sections c
  | contains key next, c => .look :: (next (c.contains key)).sections c
  | set key value next, c => .store key value :: next.sections (c.store key value)
  | resize given next, c =>
    match c.resize given with
    | .ok c => .resize given :: (next (.ok ())).sections c
    | .error fault => (next (.error fault)).sections c
  | clear next, c => .clear :: next.sections c.clear
  | getOrCompute key compute next, c =>
    match c.find? key with
    | some value => .hit :: (next (.ok value)).sections c.countHit
    | none =>
      match compute.run c.countMiss with
      | (.ok value, after) => .miss :: (compute.sections c.countMiss ++
          .store key value :: (next (.ok value)).sections (after.store key value))
      | (.error fault, after) => .miss :: (compute.sections c.countMiss ++
          (next (.error fault)).sections after)

/-- A look-up finds the value, or computes it and stores it in the cache as it stands then. -/
theorem lookUp_eq (key : String) (compute : Program α ε) (c : Cache α) :
    lookUp key compute c =
      match c.find? key with
      | some value => (.ok value, c.countHit)
      | none =>
        match compute.run c.countMiss with
        | (.ok value, after) => (.ok value, after.store key value)
        | (.error fault, after) => (.error fault, after) := by
  have hread : (Slot.whole.read c).find? key = c.find? key := rfl
  have hcompute : (.mk compute.run : ExceptT ε (StateM (Cache α)) α).run
      (Slot.whole.write (Slot.whole.read c).countMiss c) = compute.run c.countMiss := rfl
  rw [lookUp, Slot.run_getOrCompute, hread]
  cases c.find? key with
  | some value => rfl
  | none =>
    simp only [hcompute]
    rcases compute.run c.countMiss with ⟨fault | value, after⟩
    · rfl
    · rfl

theorem run_getOrCompute (key : String) (compute : Program α ε) (next : Except ε α → Program α ε)
    (c : Cache α) : (getOrCompute key compute next).run c =
      (next (lookUp key compute c).1).run (lookUp key compute c).2 := rfl

/-- The sections of a run make of the cache what the run leaves. -/
theorem foldl_sections (p : Program α ε) (c : Cache α) :
    (p.sections c).foldl (fun c s ↦ s.apply c) c = (p.run c).2 := by
  induction p generalizing c with
  | done result => rfl
  | get key next ih => exact ih (c.find? key) c
  | contains key next ih => exact ih (c.contains key) c
  | set key value next ih => exact ih (c.store key value)
  | clear next ih => exact ih c.clear
  | resize given next ih =>
    rw [sections, run]
    cases h : c.resize given with
    | error fault => exact ih (.error fault) c
    | ok c' =>
      have happly : (Section.resize given).apply c = c' := by
        rw [Section.apply, h]
        rfl
      simp only [List.foldl_cons, happly]
      exact ih (.ok ()) c'
  | getOrCompute key compute next ihCompute ih =>
    rw [sections, run_getOrCompute, lookUp_eq]
    cases c.find? key with
    | some value => exact ih (.ok value) c.countHit
    | none =>
      have hcompute := ihCompute c.countMiss
      -- the computation leaves the cache in which its value is stored
      rcases hrun : compute.run c.countMiss with ⟨fault | value, after⟩
      · rw [hrun] at hcompute
        simp only [List.foldl_cons, List.foldl_append]
        change List.foldl _ (List.foldl _ c.countMiss _) _ = _
        rw [hcompute]
        exact ih (.error fault) after
      · rw [hrun] at hcompute
        simp only [List.foldl_cons, List.foldl_append]
        change List.foldl _ ((Section.store key value).apply (List.foldl _ c.countMiss _)) _ = _
        rw [hcompute]
        exact ih (.ok value) (after.store key value)

/-- A program leaves room in a cache that has some, and does not exceed it. -/
theorem roomy_run {c : Cache α} (hroom : 0 < c.capacity) (hbound : c.size ≤ c.capacity)
    (hnodup : c.keys.Nodup) (p : Program α ε) :
    0 < (p.run c).2.capacity ∧ (p.run c).2.size ≤ (p.run c).2.capacity := by
  have horderly : Ledger.Orderly { cache := c, stored := c.keys } := ⟨hroom, hbound, hnodup, rfl⟩
  have hrun := horderly.run (p.sections c)
  have hcache : (Ledger.run { cache := c, stored := c.keys } (p.sections c)).cache =
      (p.run c).2 := by
    rw [Ledger.cache_run, foldl_sections]
  exact hcache ▸ ⟨hrun.roomy, hrun.bounded⟩

/-- A value that a look-up gives is found afterwards. -/
theorem find?_lookUp {c next : Cache α} {key : String} {compute : Program α ε} {value : α}
    (hroom : 0 < c.capacity) (hbound : c.size ≤ c.capacity) (hnodup : c.keys.Nodup)
    (h : lookUp key compute c = (.ok value, next)) : next.find? key = some value := by
  rw [lookUp_eq] at h
  cases hfound : c.find? key with
  | some kept =>
    rw [hfound] at h
    obtain ⟨hvalue, rfl⟩ := Prod.mk.inj h
    rw [← Except.ok.inj hvalue]
    exact hfound
  | none =>
    rw [hfound] at h
    have hleft := roomy_run (c := c.countMiss) hroom hbound hnodup compute
    rcases hrun : compute.run c.countMiss with ⟨fault | computed, after⟩
    · rw [hrun] at h
      exact absurd (Prod.mk.inj h).1 (by simp)
    · rw [hrun] at h hleft
      obtain ⟨hvalue, rfl⟩ := Prod.mk.inj h
      obtain rfl := Except.ok.inj hvalue
      exact find?_store hleft.1 hleft.2 key computed

/-- A program on a cache that was made with an accepted capacity runs in sections. Between any two
of them the cache holds no more keys than its capacity allows and none of them twice. Since it was
last cleared, the keys that were stored while they were absent are those that were evicted, in the
order of their eviction, followed by those that it lists. Whatever is stored or looked up with
success then is found afterwards with its value, and a capacity that is refused changes nothing. -/
theorem keys_leave_in_order_of_insertion {given : Int} {c : Cache α}
    (hc : ofCapacity? given = .ok c) (p : Program α ε) :
    (p.run c).2 = (Ledger.run { cache := c } (p.sections c)).cache ∧
      ∀ past, past <+: p.sections c →
        let l : Ledger α := Ledger.run { cache := c } past
        l.cache.size ≤ l.cache.capacity ∧ l.cache.keys.Nodup ∧
        l.stored = l.evicted ++ l.cache.keys ∧
        (∀ key value, (l.cache.store key value).find? key = some value) ∧
        (∀ (key : String) (compute : Program α ε) (value : α) (next : Cache α),
          lookUp key compute l.cache = (.ok value, next) → next.find? key = some value) ∧
        ∀ refused ≤ 0, ∀ next : Except Fault Unit → Program α ε,
          (resize refused next).run l.cache =
            (next (.error (.capacityNotPositive refused))).run l.cache := by
  refine ⟨?_, fun past _ ↦ ?_⟩
  · rw [Ledger.cache_run, foldl_sections]
  · intro l
    have horderly : l.Orderly := (Ledger.orderly_of_ofCapacity? hc).run past
    refine ⟨horderly.bounded, horderly.nodup, horderly.stored_eq,
      find?_store horderly.roomy horderly.bounded, fun key compute value next h ↦
        find?_lookUp horderly.roomy horderly.bounded horderly.nodup h, fun refused h next ↦ ?_⟩
    have hrefused : l.cache.resize refused = .error (.capacityNotPositive refused) := by
      rw [Cache.resize, checkCapacity, if_pos h]
      rfl
    rw [run, hrefused]

/-- A computation that stores its own key, takes the room away and has a capacity refused. -/
theorem shrinking_computation_evicts_in_order :
    ∃ (c : Cache Nat) (p : Program Nat Unit) (l : Ledger Nat), ofCapacity? 2 = .ok c ∧
      l = Ledger.run { cache := c } (p.sections c) ∧ l.cache = (p.run c).2 ∧
      l.evicted = ["a", "b", "c"] ∧ l.cache.keys = ["b"] ∧ l.stored = ["a", "b", "c", "b"] ∧
      l.stored = l.evicted ++ l.cache.keys := by
  let compute : Program Nat Unit :=
    .set "b" 7 (.set "c" 3 (.resize 1 fun _ ↦ .resize 0 fun _ ↦ .done (.ok 2)))
  let p : Program Nat Unit := .set "a" 1 (.getOrCompute "b" compute .done)
  have hc : ofCapacity? (α := Nat) 2 = .ok { capacity := 2 } := rfl
  obtain ⟨hrun, hpast⟩ := keys_leave_in_order_of_insertion hc p
  obtain ⟨-, -, hstored, -⟩ := hpast _ (List.prefix_refl _)
  exact ⟨_, p, _, hc, rfl, hrun.symm, by decide +kernel, by decide +kernel, by decide +kernel,
    hstored⟩

end Program

end ModuleScript.Cache
