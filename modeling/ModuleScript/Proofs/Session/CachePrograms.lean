import ModuleScript.Proofs.Session.CacheSites

/-!
# Programs on the caches of a session

A program is what a host can do with the caches of a session: operations on any of them, which go
on with what they give, and look-ups whose computations are programs on the same caches, nested to
any depth. A look-up adds nothing to what its computation does but the counted miss before it and,
unless it fails, the stored value after it; and the counts of a cache tell how many look-ups began
and how many of them computed.
-/

namespace ModuleScript.Session

variable {ε : Type}

/-- A program on the caches of a session, whose computations may fail. -/
inductive Program (ε : Type) where
  | done (result : Except ε Artifact)
  /-- A cache is read: the value of a key, the keys, the size or the counts. -/
  | look (site : Site) (next : Cache Artifact → Program ε)
  /-- The sizes of the shared caches are read. -/
  | sizes (next : Table String Nat → Program ε)
  /-- The session gets a cache of its own. -/
  | make (capacity : Int) (next : Except Cache.Fault Site → Program ε)
  | set (site : Site) (key : String) (value : Artifact) (next : Program ε)
  | resize (site : Site) (capacity : Int) (next : Except Cache.Fault Unit → Program ε)
  | clear (site : Site) (next : Program ε)
  | clearShared (next : Program ε)
  /-- A look-up, with the program that computes the value on a miss. -/
  | getOrCompute (site : Site) (key : String) (compute : Program ε)
      (next : Except ε Artifact → Program ε)

/-- What happens to the counts of a cache. -/
inductive Event where
  /-- A look-up begins. -/
  | begun (site : Site)
  /-- A value is computed. -/
  | computed (site : Site)
  | cleared (site : Site)
  | clearedShared
  deriving DecidableEq, Repr

/-- Whether the counts of a cache start anew. -/
def Event.resets (site : Site) : Event → Bool
  | begun _ | computed _ => false
  | cleared other => other = site
  | clearedShared => match site with
    | .shared _ => true
    | .own _ => false

namespace Program

/-- The result of a program and the session that it leaves. -/
def run : Program ε → Session → Except ε Artifact × Session
  | done result, s => (result, s)
  | look site next, s => (next (s.cacheAt site)).run (s.perform site .look)
  | sizes next, s => (next s.store.sizes).run s
  | make capacity next, s =>
    match Cache.ofCapacity? capacity with
    | .ok c => (next (.ok (.own (s.addCache c).1))).run (s.addCache c).2
    | .error fault => (next (.error fault)).run s
  | set site key value next, s => next.run (s.perform site (.store key value))
  | resize site capacity next, s =>
    (next (((s.cacheAt site).resize capacity).map fun _ ↦ ())).run
      (s.perform site (.resize capacity))
  | clear site next, s => next.run (s.perform site .clear)
  | clearShared next, s => next.run s.clearShared
  | getOrCompute site key compute next, s =>
    let (result, s) := (site.slot.getOrCompute key (.mk compute.run)).run s
    (next result).run s

/-- The result of a look-up and the session that it leaves. -/
def lookUp (site : Site) (key : String) (compute : Program ε) (s : Session) :
    Except ε Artifact × Session :=
  (site.slot.getOrCompute key (.mk compute.run)).run s

/-- What happens to the counts of caches in a run, in order. What a computation does stands behind
its look-up and before what comes next. -/
def events : Program ε → Session → List Event
  | done _, _ => []
  | look site next, s => (next (s.cacheAt site)).events (s.perform site .look)
  | sizes next, s => (next s.store.sizes).events s
  | make capacity next, s =>
    match Cache.ofCapacity? capacity with
    | .ok c => (next (.ok (.own (s.addCache c).1))).events (s.addCache c).2
    | .error fault => (next (.error fault)).events s
  | set site key value next, s => next.events (s.perform site (.store key value))
  | resize site capacity next, s =>
    (next (((s.cacheAt site).resize capacity).map fun _ ↦ ())).events
      (s.perform site (.resize capacity))
  | clear site next, s => .cleared site :: next.events (s.perform site .clear)
  | clearShared next, s => .clearedShared :: next.events s.clearShared
  | getOrCompute site key compute next, s =>
    let computation := match (s.cacheAt site).find? key with
      | some _ => []
      | none => .computed site :: compute.events (s.perform site .miss)
    .begun site :: (computation ++
      (next (compute.lookUp site key s).1).events (compute.lookUp site key s).2)

/-- What happens to the counts of caches in a look-up. -/
def lookUpEvents (site : Site) (key : String) (compute : Program ε) (s : Session) : List Event :=
  .begun site :: match (s.cacheAt site).find? key with
    | some _ => []
    | none => .computed site :: compute.events (s.perform site .miss)

/-- A look-up finds the value, or computes it and stores it in the cache as it stands then. -/
theorem lookUp_eq (site : Site) (key : String) (compute : Program ε) (s : Session) :
    compute.lookUp site key s =
      match (s.cacheAt site).find? key with
      | some value => (.ok value, s.perform site .hit)
      | none =>
        match compute.run (s.perform site .miss) with
        | (.ok value, after) => (.ok value, after.perform site (.store key value))
        | (.error fault, after) => (.error fault, after) := by
  have hread : (site.slot.read s).find? key = (s.cacheAt site).find? key := rfl
  have hcompute : (.mk compute.run : ExceptT ε (StateM Session) Artifact).run
      (site.slot.write (site.slot.read s).countMiss s) = compute.run (s.perform site .miss) := rfl
  rw [lookUp, Cache.Slot.run_getOrCompute, hread]
  cases (s.cacheAt site).find? key with
  | some value => rfl
  | none =>
    simp only [hcompute]
    rcases compute.run (s.perform site .miss) with ⟨fault | value, after⟩
    · rfl
    · rfl

theorem run_getOrCompute (site : Site) (key : String) (compute : Program ε)
    (next : Except ε Artifact → Program ε) (s : Session) :
    (getOrCompute site key compute next).run s =
      (next (compute.lookUp site key s).1).run (compute.lookUp site key s).2 := rfl

theorem events_getOrCompute (site : Site) (key : String) (compute : Program ε)
    (next : Except ε Artifact → Program ε) (s : Session) :
    (getOrCompute site key compute next).events s = compute.lookUpEvents site key s ++
      (next (compute.lookUp site key s).1).events (compute.lookUp site key s).2 := rfl

/-- What survives all that is done to caches survives a run. -/
theorem keeps_run {P : Session → Prop} (hstable : Stable P) {s : Session} (h : P s)
    (p : Program ε) : P (p.run s).2 := by
  induction p generalizing s with
  | done result => exact h
  | look site next ih => exact ih _ (hstable.perform site .look h)
  | sizes next ih => exact ih _ h
  | make capacity next ih =>
    rw [run]
    split
    next c hc => exact ih _ (hstable.addCache (.of_ofCapacity? hc) h)
    next fault hfault => exact ih _ h
  | set site key value next ih => exact ih (hstable.perform site (.store key value) h)
  | resize site capacity next ih => exact ih _ (hstable.perform site (.resize capacity) h)
  | clear site next ih => exact ih (hstable.perform site .clear h)
  | clearShared next ih => exact ih (hstable.clearShared h)
  | getOrCompute site key compute next ihCompute ih =>
    rw [run_getOrCompute]
    refine ih _ ?_
    rw [lookUp_eq]
    cases (s.cacheAt site).find? key with
    | some value => exact hstable.perform site .hit h
    | none =>
      have hcompute := ihCompute (hstable.perform site .miss h)
      rcases hrun : compute.run (s.perform site .miss) with ⟨fault | value, after⟩
      · rw [hrun] at hcompute
        exact hcompute
      · rw [hrun] at hcompute
        exact hstable.perform site (.store key value) hcompute

/-! ### Counts -/

/-- What a section means for the counts of its cache. -/
def eventsOf (site : Site) : Cache.Section Artifact → List Event
  | .look | .store .. | .resize _ => []
  | .hit => [.begun site]
  | .miss => [.begun site, .computed site]
  | .clear => [.cleared site]

/-- A cache is there, and its counts have grown by the look-ups that began and by those of them
that computed. -/
structure Counted (site : Site) (s s' : Session) (past : List Event) : Prop where
  there : site.Exists s'
  lookUps : (s'.cacheAt site).hits + (s'.cacheAt site).misses =
    (s.cacheAt site).hits + (s.cacheAt site).misses + past.count (.begun site)
  computations : (s'.cacheAt site).misses =
    (s.cacheAt site).misses + past.count (.computed site)

variable {site other : Site} {s s' s'' : Session} {past more : List Event}

theorem Counted.refl (h : site.Exists s) : Counted site s s [] := ⟨h, rfl, rfl⟩

theorem Counted.trans (h : Counted site s s' past) (h' : Counted site s' s'' more) :
    Counted site s s'' (past ++ more) where
  there := h'.there
  lookUps := by
    rw [h'.lookUps, h.lookUps, List.count_append]
    omega
  computations := by
    rw [h'.computations, h.computations, List.count_append]
    omega

/-- A section counts the look-up that begins in it, and that it computes, unless it clears. -/
theorem counts_apply (c : Cache Artifact) (site : Site) {sec : Cache.Section Artifact}
    (h : sec ≠ .clear) :
    (sec.apply c).hits + (sec.apply c).misses =
        c.hits + c.misses + (eventsOf site sec).count (.begun site) ∧
      (sec.apply c).misses = c.misses + (eventsOf site sec).count (.computed site) := by
  cases sec with
  | look => exact ⟨rfl, rfl⟩
  | hit =>
    have hhits : (Cache.Section.hit.apply c).hits = c.hits + 1 := rfl
    have hmisses : (Cache.Section.hit.apply c).misses = c.misses := rfl
    rw [hhits, hmisses]
    simp only [eventsOf, List.count_singleton_self, List.count_singleton]
    exact ⟨by omega, rfl⟩
  | miss =>
    have hhits : (Cache.Section.miss.apply c).hits = c.hits := rfl
    have hmisses : (Cache.Section.miss.apply c).misses = c.misses + 1 := rfl
    rw [hhits, hmisses]
    simp [eventsOf, Nat.add_assoc]
  | store key value => exact ⟨rfl, rfl⟩
  | resize given =>
    rw [Cache.Section.apply]
    cases hresize : c.resize given with
    | error fault => exact ⟨rfl, rfl⟩
    | ok next =>
      obtain ⟨-, rfl⟩ := Cache.resize_eq_ok hresize
      exact ⟨rfl, rfl⟩
  | clear => exact absurd rfl h

/-- A section on any cache counts, unless it resets the counts. -/
theorem counted_perform (h : site.Exists s) (sec : Cache.Section Artifact)
    (hreset : ∀ e ∈ eventsOf other sec, e.resets site = false) :
    Counted site s (s.perform other sec) (eventsOf other sec) := by
  have hthere : site.Exists (s.perform other sec) := exists_setCacheAt h
  by_cases hsite : other = site
  · subst hsite
    have hcache : (s.perform other sec).cacheAt other = sec.apply (s.cacheAt other) :=
      cacheAt_setCacheAt_self h
    have hclear : sec ≠ .clear := by
      rintro rfl
      exact absurd (hreset _ (List.mem_singleton_self _)) (by simp [Event.resets])
    obtain ⟨hlookUps, hcomputations⟩ := counts_apply (s.cacheAt other) other hclear
    exact ⟨hthere, hcache ▸ hlookUps, hcache ▸ hcomputations⟩
  · have hcache : (s.perform other sec).cacheAt site = s.cacheAt site :=
      cacheAt_setCacheAt_of_ne hsite
    have hnone : (eventsOf other sec).count (.begun site) = 0 ∧
        (eventsOf other sec).count (.computed site) = 0 := by
      cases sec <;> simp [eventsOf, hsite]
    exact ⟨hthere, by rw [hcache, hnone.1]; rfl, by rw [hcache, hnone.2]; rfl⟩

/-- A cache of the session's own that is new has no counts yet. -/
theorem counted_addCache (h : site.Exists s) {c : Cache Artifact} (hc : c.Bounded) :
    Counted site s (s.addCache c).2 [] := by
  have hcache : (s.addCache c).2.cacheAt site = s.cacheAt site := by
    rw [cacheAt_addCache, if_neg]
    rintro rfl
    exact Nat.lt_irrefl _ h
  exact ⟨(stable_exists site).addCache hc h, by rw [hcache]; rfl, by rw [hcache]; rfl⟩

/-- Clearing the shared caches leaves the session's own alone. -/
theorem counted_clearShared (h : site.Exists s) (hreset : Event.clearedShared.resets site = false) :
    Counted site s s.clearShared [.clearedShared] := by
  cases site with
  | shared name => exact absurd hreset (by simp [Event.resets])
  | own place => exact ⟨h, rfl, rfl⟩

/-- A look-up counts itself and what its computation counts. -/
theorem counted_lookUp (h : site.Exists s) (other : Site) (key : String) {compute : Program ε}
    (hcompute : ∀ {s : Session}, site.Exists s → (∀ e ∈ compute.events s, e.resets site = false) →
      Counted site s (compute.run s).2 (compute.events s))
    (hreset : ∀ e ∈ compute.lookUpEvents other key s, e.resets site = false) :
    Counted site s (compute.lookUp other key s).2 (compute.lookUpEvents other key s) := by
  rw [lookUp_eq]
  rw [lookUpEvents] at hreset ⊢
  cases hfound : (s.cacheAt other).find? key with
  | some value => exact counted_perform h .hit (by simp [eventsOf, Event.resets])
  | none =>
    rw [hfound] at hreset
    have hmiss : Counted site s (s.perform other .miss) [.begun other, .computed other] :=
      counted_perform h .miss (by simp [eventsOf, Event.resets])
    have hinner := hmiss.trans (hcompute hmiss.there fun e he ↦
      hreset e (List.mem_cons_of_mem _ (List.mem_cons_of_mem _ he)))
    rcases hrun : compute.run (s.perform other .miss) with ⟨fault | value, after⟩
    · rw [hrun] at hinner
      exact hinner
    · rw [hrun] at hinner
      have hstore : Counted site after (after.perform other (.store key value)) [] :=
        counted_perform hinner.there (.store key value) (by simp [eventsOf])
      have hall := hinner.trans hstore
      rw [List.append_nil] at hall
      exact hall

/-- A run counts its look-ups and computations, however they are nested, unless it resets the
counts. -/
theorem counted_run (h : site.Exists s) (p : Program ε)
    (hreset : ∀ e ∈ p.events s, e.resets site = false) :
    Counted site s (p.run s).2 (p.events s) := by
  induction p generalizing s with
  | done result => exact .refl h
  | look other next ih =>
    have hfirst : Counted site s (s.perform other .look) [] :=
      counted_perform h .look (by simp [eventsOf])
    exact hfirst.trans (ih _ hfirst.there hreset)
  | sizes next ih => exact ih _ h hreset
  | make capacity next ih =>
    rw [events] at hreset ⊢
    rw [run]
    cases hmade : Cache.ofCapacity? capacity with
    | error fault =>
      rw [hmade] at hreset
      exact ih _ h hreset
    | ok c =>
      rw [hmade] at hreset
      have hfirst := counted_addCache h (.of_ofCapacity? hmade)
      exact hfirst.trans (ih _ hfirst.there hreset)
  | set other key value next ih =>
    have hfirst : Counted site s (s.perform other (.store key value)) [] :=
      counted_perform h (.store key value) (by simp [eventsOf])
    exact hfirst.trans (ih hfirst.there hreset)
  | resize other capacity next ih =>
    have hfirst : Counted site s (s.perform other (.resize capacity)) [] :=
      counted_perform h (.resize capacity) (by simp [eventsOf])
    exact hfirst.trans (ih _ hfirst.there hreset)
  | clear other next ih =>
    obtain ⟨hclear, hrest⟩ := List.forall_mem_cons.mp hreset
    have hfirst : Counted site s (s.perform other .clear) [.cleared other] :=
      counted_perform h .clear (by simpa [eventsOf] using hclear)
    exact hfirst.trans (ih hfirst.there hrest)
  | clearShared next ih =>
    obtain ⟨hclear, hrest⟩ := List.forall_mem_cons.mp hreset
    have hfirst := counted_clearShared h hclear
    exact hfirst.trans (ih hfirst.there hrest)
  | getOrCompute other key compute next ihCompute ih =>
    rw [events_getOrCompute] at hreset ⊢
    obtain ⟨hlookUp, hrest⟩ := List.forall_mem_append.mp hreset
    have hfirst := counted_lookUp h other key ihCompute hlookUp
    rw [run_getOrCompute]
    exact hfirst.trans (ih _ hfirst.there hrest)

/-! ### Look-ups -/

/-- Let a key be absent from a cache, whose value is computed by a program on the caches of the
session. If the computation fails, the look-up fails likewise, and leaves what the computation
leaves when it starts with the counted miss. If it gives a value, the look-up gives this value, and
stores it in what the computation leaves; a key that was stored meanwhile keeps its place, and the
oldest key is evicted only for a new key when the cache is full. All this holds as long as no cache
exceeds its capacity, and no program makes one do so. Unless the counts of a cache are reset in a
run, its hits and misses grow by the look-ups that begin, and its misses by those that compute. -/
theorem look_ups_add_a_miss_and_a_value (s : Session) (p : Program ε) :
    (∀ site key, (s.cacheAt site).find? key = none →
      let missed := s.setCacheAt site (s.cacheAt site).countMiss
      (∀ fault left, p.run missed = (.error fault, left) →
        p.lookUp site key s = (.error fault, left)) ∧
      ∀ value left, p.run missed = (.ok value, left) →
        let c := left.cacheAt site
        p.lookUp site key s = (.ok value, left.setCacheAt site (c.store key value)) ∧
        (s.Bounded → (c.store key value).keys =
          if key ∈ c.keys then c.keys
          else if c.size = c.capacity then c.keys.tail ++ [key]
          else c.keys ++ [key])) ∧
    (s.Bounded → (p.run s).2.Bounded) ∧
    ∀ site, site.Exists s → (∀ e ∈ p.events s, e.resets site = false) →
      let before := s.cacheAt site
      let after := (p.run s).2.cacheAt site
      after.hits + after.misses =
        before.hits + before.misses + (p.events s).count (.begun site) ∧
      after.misses = before.misses + (p.events s).count (.computed site) := by
  refine ⟨fun site key habsent ↦ ?_, fun h ↦ keeps_run stable_bounded h p, fun site h hreset ↦ ?_⟩
  · have hlookUp := lookUp_eq site key p s
    rw [habsent] at hlookUp
    refine ⟨fun fault left (hrun : p.run (s.perform site .miss) = _) ↦ ?_,
      fun value left (hrun : p.run (s.perform site .miss) = _) ↦ ⟨?_, fun h ↦ ?_⟩⟩
    · simp only [hlookUp, hrun]
    · simp only [hlookUp, hrun]
      rfl
    · have hleft := keeps_run stable_bounded (stable_bounded.perform site .miss h) p
      rw [hrun] at hleft
      exact (hleft site).keys_store key value
  · have hcounted := counted_run h p hreset
    exact ⟨hcounted.lookUps, hcounted.computations⟩

/-- A computation looks its own key up again, in a computation that stores the key and then fails.
Whether it gives a value in the end or fails as well, the key keeps its place. -/
theorem nested_computation_keeps_the_place_of_its_key :
    ∃ (s : Session) (p : Except Unit Artifact → Program Unit) (value : Artifact)
      (left : Session), s.Bounded ∧ Site.Exists s (.own 0) ∧ (s.cacheAt (.own 0)).capacity = 2 ∧
      (p (.error ())).lookUp (.own 0) "b" s = (.error (), left) ∧
      (left.cacheAt (.own 0)).keys = ["b", "c"] ∧
      ((p (.ok value)).lookUp (.own 0) "b" s).1 = .ok value ∧
      (((p (.ok value)).lookUp (.own 0) "b" s).2.cacheAt (.own 0)).keys = ["b", "c"] ∧
      (((p (.ok value)).run s).2.cacheAt (.own 0)).hits +
        (((p (.ok value)).run s).2.cacheAt (.own 0)).misses = 1 := by
  let site : Site := .own 0
  let text (t : String) : Artifact := .data (.text t)
  let s : Session := (Session.addCache {} { capacity := 2 }).2
  let p (result : Except Unit Artifact) : Program Unit :=
    .getOrCompute site "b" (.set site "b" (text "2") (.done (.error ()))) fun _ ↦
      .set site "c" (text "3") (.done result)
  have hmade : Cache.ofCapacity? 2 = .ok ({ capacity := 2 } : Cache Artifact) := rfl
  have hs : s.Bounded := stable_bounded.addCache (.of_ofCapacity? hmade) bounded_empty
  have hthere : site.Exists s := Nat.zero_lt_one
  obtain ⟨hfailing, -, -⟩ := look_ups_add_a_miss_and_a_value s (p (.error ()))
  obtain ⟨hgiving, -, hcounts⟩ := look_ups_add_a_miss_and_a_value s (p (.ok (text "4")))
  obtain ⟨hfail, -⟩ := hfailing site "b" rfl
  obtain ⟨-, hgive⟩ := hgiving site "b" rfl
  obtain ⟨hlookUp, hkeys⟩ := hgive (text "4") _ rfl
  have hreset : ∀ e ∈ (p (.ok (text "4"))).events s, e.resets site = false := by
    decide +kernel
  obtain ⟨hcount, -⟩ := hcounts site hthere hreset
  have hevents : ((p (.ok (text "4"))).events s).count (.begun site) = 1 := by decide +kernel
  refine ⟨s, p, text "4", _, hs, hthere, rfl, hfail () _ rfl, by decide +kernel, ?_, ?_, ?_⟩
  · rw [hlookUp]
  · rw [hlookUp]
    decide +kernel
  · rw [hcount, hevents]
    rfl

end Program

end ModuleScript.Session
