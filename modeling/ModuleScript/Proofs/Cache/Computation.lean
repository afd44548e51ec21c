import ModuleScript.Proofs.Cache.Holding

/-!
# Computations on the shared caches

A computation is judged by what it makes of any store with a certain property: it leaves such a
store behind, and its result is as expected. Judgements compose like the computations do.
-/

namespace ModuleScript

open Store

variable {α β ε : Type} {P : Store → Prop} {ok : Condition}

/-- From a store with the property, the computation leaves such a store, and its result is as
expected. -/
def Ensures (P : Store → Prop) (x : ExceptT ε (StateM Store) α) (q : Except ε α → Prop) : Prop :=
  ∀ s, P s → P (x.run s).2 ∧ q (x.run s).1

/-- The property is kept, whatever the result. -/
def Keeps (P : Store → Prop) (x : ExceptT ε (StateM Store) α) : Prop :=
  Ensures P x fun _ ↦ True

namespace Ensures

variable {x : ExceptT ε (StateM Store) α} {f : α → ExceptT ε (StateM Store) β}
  {p q : Except ε α → Prop} {r : Except ε β → Prop}

theorem mono (h : Ensures P x p) (hpq : ∀ result, p result → q result) : Ensures P x q :=
  fun s hs ↦ ⟨(h s hs).1, hpq _ (h s hs).2⟩

theorem keeps (h : Ensures P x p) : Keeps P x := h.mono fun _ _ ↦ trivial

theorem pure {a : α} (h : q (.ok a)) : Ensures P (pure a) q := fun _ hs ↦ ⟨hs, h⟩

theorem throw {fault : ε} (h : q (.error fault)) : Ensures P (throw fault) q :=
  fun _ hs ↦ ⟨hs, h⟩

/-- What goes on with a value is judged for the values that can arise. -/
theorem bind (hx : Ensures P x p) (hf : ∀ a, p (.ok a) → Ensures P (f a) r)
    (hfault : ∀ fault, p (.error fault) → r (.error fault)) : Ensures P (x >>= f) r := by
  intro s hs
  obtain ⟨hstore, hresult⟩ := hx s hs
  rw [Cache.run_bind]
  rcases hrun : x.run s with ⟨fault | a, s'⟩
  · rw [hrun] at hstore hresult
    exact ⟨hstore, hfault _ hresult⟩
  · rw [hrun] at hstore hresult
    exact hf _ hresult s' hstore

/-- A look-up gives a value that meets the condition: a kept one, or one that is kept from now
on. -/
theorem getOrCompute {name key : String} {compute : ExceptT ε (StateM Store) Artifact}
    {q : Except ε Artifact → Prop} (hkept : ∀ value, ok name key value → q (.ok value))
    (hcompute : Ensures (Holds ok) compute fun result ↦
      (∀ value, result = .ok value → ok name key value) ∧
        ∀ fault, result = .error fault → q (.error fault)) :
    Ensures (Holds ok) ((slot name).getOrCompute key compute) q := by
  intro s hs
  rw [Cache.Slot.run_getOrCompute]
  cases hfound : ((slot name).read s).find? key with
  | some value =>
    exact ⟨hs.setPartition (hs name), hkept value (hs name key value
      (Cache.mem_entries_of_find? hfound))⟩
  | none =>
    have hmiss : ((slot name).write ((slot name).read s).countMiss s).Holds ok :=
      hs.setPartition (hs name)
    obtain ⟨hstore, hvalue, hfault⟩ := hcompute _ hmiss
    rcases hrun : compute.run ((slot name).write ((slot name).read s).countMiss s)
      with ⟨fault | value, s'⟩
    · rw [hrun] at hstore hfault
      exact ⟨hstore, hfault fault rfl⟩
    · rw [hrun] at hstore hvalue
      refine ⟨hstore.setPartition fun k v hmem ↦ ?_, hkept value (hvalue value rfl)⟩
      rcases Cache.eq_or_mem_of_mem_store hmem with heq | hmem
      · obtain ⟨rfl, rfl⟩ := Prod.mk.inj heq
        exact hvalue _ rfl
      · exact hstore name k v hmem

end Ensures

/-- A result that is no failure, with a value as expected. -/
def Gives (p : α → Prop) (result : Except ε α) : Prop := ∃ a, result = .ok a ∧ p a

namespace Ensures

variable {p : α → Prop} {x : ExceptT ε (StateM Store) α} {f : α → ExceptT ε (StateM Store) β}
  {q : Except ε β → Prop}

theorem gives_pure {a : α} (h : p a) :
    Ensures P (Pure.pure a : ExceptT ε (StateM Store) α) (Gives p) := .pure ⟨a, rfl, h⟩

/-- What does not fail hands its value on. -/
theorem bind_gives (hx : Ensures P x (Gives p)) (hf : ∀ a, p a → Ensures P (f a) q) :
    Ensures P (x >>= f) q := by
  refine hx.bind (fun a ↦ ?_) fun fault ↦ ?_
  · rintro ⟨_, ⟨⟩, ha⟩
    exact hf a ha
  · rintro ⟨_, ⟨⟩, _⟩

/-- A look-up gives a value of the form that the partition keeps, if its computation does. -/
theorem getOrCompute_gives {form : Artifact → Prop} {name key : String}
    {compute : ExceptT ε (StateM Store) Artifact}
    (hkept : ∀ {key value}, ok name key value → form value)
    (hform : ∀ value, form value → ok name key value)
    (hcompute : Ensures (Holds ok) compute (Gives form)) :
    Ensures (Holds ok) ((slot name).getOrCompute key compute) (Gives form) := by
  refine getOrCompute (fun value hvalue ↦ ⟨value, rfl, hkept hvalue⟩) (hcompute.mono ?_)
  rintro _ ⟨value, rfl, hvalue⟩
  refine ⟨?_, by simp⟩
  rintro _ ⟨⟩
  exact hform value hvalue

end Ensures

namespace Keeps

variable {x : ExceptT ε (StateM Store) α} {f : α → ExceptT ε (StateM Store) β}

theorem pure (a : α) : Keeps P (pure a : ExceptT ε (StateM Store) α) := Ensures.pure trivial

theorem throw (fault : ε) : Keeps P (throw fault : ExceptT ε (StateM Store) α) :=
  Ensures.throw trivial

theorem bind (hx : Keeps P x) (hf : ∀ a, Keeps P (f a)) : Keeps P (x >>= f) :=
  Ensures.bind hx (fun a _ ↦ hf a) fun _ _ ↦ trivial

/-- A look-up in a partition whose entries are of no concern. -/
theorem getOrCompute {name key : String} {compute : ExceptT ε (StateM Store) Artifact}
    (hfree : ∀ key kept, ok name key kept) (hcompute : Keeps (Holds ok) compute) :
    Keeps (Holds ok) ((slot name).getOrCompute key compute) :=
  Ensures.getOrCompute (fun _ _ ↦ trivial)
    (hcompute.mono fun _ _ ↦ ⟨fun value _ ↦ hfree key value, fun _ _ ↦ trivial⟩)

/-- A look-up keeps what its computation, its counting and its storing do. -/
theorem getOrCompute_of_writes {name key : String} {compute : ExceptT ε (StateM Store) Artifact}
    (hhit : ∀ {s}, P s → P (s.setPartition name (s.partition name).countHit))
    (hmiss : ∀ {s}, P s → P (s.setPartition name (s.partition name).countMiss))
    (hstore : ∀ {s} value, P s → P (s.setPartition name ((s.partition name).store key value)))
    (hcompute : Keeps P compute) : Keeps P ((slot name).getOrCompute key compute) := by
  intro s hs
  rw [Cache.Slot.run_getOrCompute]
  cases ((slot name).read s).find? key with
  | some value => exact ⟨hhit hs, trivial⟩
  | none =>
    have hmissed : P ((slot name).write ((slot name).read s).countMiss s) := hmiss hs
    obtain ⟨hleft, -⟩ := hcompute _ hmissed
    rcases hrun : compute.run ((slot name).write ((slot name).read s).countMiss s)
      with ⟨fault | value, s'⟩
    · rw [hrun] at hleft
      exact ⟨hleft, trivial⟩
    · rw [hrun] at hleft
      exact ⟨hstore value hleft, trivial⟩

/-- A look-up leaves room. -/
theorem getOrCompute_roomy {name key : String} {compute : ExceptT ε (StateM Store) Artifact}
    (hcompute : Keeps Roomy compute) : Keeps Roomy ((slot name).getOrCompute key compute) :=
  getOrCompute_of_writes (fun hs ↦ hs.setPartition (hs name)) (fun hs ↦ hs.setPartition (hs name))
    (fun _ hs ↦ hs.setPartition (hs name)) hcompute

end Keeps

end ModuleScript
