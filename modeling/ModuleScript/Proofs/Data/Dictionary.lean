import ModuleScript.Data.Value.Equality

/-!
# Laws of dictionaries

A key that is put into a dictionary takes the place of the first equal key, or the end if there is
none. So the keys stay pairwise different, and a dictionary whose keys are pairwise different is
made up again by putting in its pairs one by one.
-/

namespace ModuleScript.Value

variable {α : Type} {key : Value} {pairs : List (Value × α)}

/-- No key equals one that comes after it. -/
def Distinct (keys : List Value) : Prop := keys.Pairwise fun k l ↦ k.sameScalar l = false

/-- No key of a dictionary equals this one. -/
def IsNew (key : Value) (pairs : List (Value × α)) : Prop :=
  ∀ pair ∈ pairs, pair.1.sameScalar key = false

/-! ### Putting -/

/-- A new key comes last. -/
theorem put_of_isNew (h : IsNew key pairs) (value : α) :
    put key value pairs = pairs ++ [(key, value)] := by
  induction pairs with
  | nil => rfl
  | cons pair rest ih =>
    obtain ⟨hpair, hrest⟩ := List.forall_mem_cons.mp h
    rw [put, hpair, ih hrest]
    rfl

/-- A key is put in the place of the first equal one, whose form stays. -/
theorem put_of_same {before after : List (Value × α)} {k : Value} (hbefore : IsNew key before)
    (hk : k.sameScalar key = true) (old value : α) :
    put key value (before ++ (k, old) :: after) = before ++ (k, value) :: after := by
  induction before with
  | nil => rw [List.nil_append, put, if_pos hk, List.nil_append]
  | cons pair rest ih =>
    obtain ⟨hpair, hrest⟩ := List.forall_mem_cons.mp hbefore
    rw [List.cons_append, put, hpair, ih hrest]
    rfl

/-- A key is new, or there is a first one that equals it. -/
theorem isNew_or_exists_first (key : Value) (pairs : List (Value × α)) :
    IsNew key pairs ∨ ∃ before k old after, pairs = before ++ (k, old) :: after ∧
      IsNew key before ∧ k.sameScalar key = true := by
  induction pairs with
  | nil => exact .inl (by simp [IsNew])
  | cons pair rest ih =>
    cases hpair : pair.1.sameScalar key with
    | true => exact .inr ⟨[], pair.1, pair.2, rest, rfl, by simp [IsNew], hpair⟩
    | false =>
      rcases ih with hnew | ⟨before, k, old, after, rfl, hbefore, hk⟩
      · exact .inl (List.forall_mem_cons.mpr ⟨hpair, hnew⟩)
      · exact .inr ⟨pair :: before, k, old, after, rfl, List.forall_mem_cons.mpr ⟨hpair, hbefore⟩,
          hk⟩

/-- The keys stay as they are, or the new one comes last. -/
theorem keys_put (key : Value) (value : α) (pairs : List (Value × α)) :
    (put key value pairs).map (·.1) = pairs.map (·.1) ∨
      IsNew key pairs ∧ (put key value pairs).map (·.1) = pairs.map (·.1) ++ [key] := by
  rcases isNew_or_exists_first key pairs with hnew | ⟨before, k, old, after, rfl, hbefore, hk⟩
  · exact .inr ⟨hnew, by rw [put_of_isNew hnew, List.map_append, List.map_singleton]⟩
  · exact .inl (by rw [put_of_same hbefore hk, List.map_append, List.map_append, List.map_cons,
      List.map_cons])

/-- So they stay pairwise different. -/
theorem Distinct.put (h : Distinct (pairs.map (·.1))) (key : Value) (value : α) :
    Distinct ((put key value pairs).map (·.1)) := by
  rcases keys_put key value pairs with hkeys | ⟨hnew, hkeys⟩
  · exact hkeys ▸ h
  · rw [hkeys, Distinct, List.pairwise_append]
    refine ⟨h, List.pairwise_singleton _ key, ?_⟩
    rintro k hk l hl
    obtain ⟨pair, hpair, rfl⟩ := List.mem_map.mp hk
    exact List.mem_singleton.mp hl ▸ hnew pair hpair

/-- What is there afterwards was there or was put, under the key or under an equal one. -/
theorem mem_put {pair : Value × α} {value : α} (h : pair ∈ put key value pairs) :
    pair ∈ pairs ∨ pair.2 = value ∧ (pair.1 = key ∨ pair.1 ∈ pairs.map (·.1)) := by
  rcases isNew_or_exists_first key pairs with hnew | ⟨before, k, old, after, rfl, hbefore, hk⟩
  · rw [put_of_isNew hnew] at h
    rcases List.mem_append.mp h with h | h
    · exact .inl h
    · obtain rfl := List.mem_singleton.mp h
      exact .inr ⟨rfl, .inl rfl⟩
  · rw [put_of_same hbefore hk] at h
    rcases List.mem_append.mp h with h | h
    · exact .inl (List.mem_append_left _ h)
    · rcases List.mem_cons.mp h with rfl | h
      · exact .inr ⟨rfl, .inr (by simp)⟩
      · exact .inl (List.mem_append_right _ (List.mem_cons_of_mem _ h))

/-- Whatever is found is a value of the dictionary. -/
theorem exists_mem_of_under? {value : α} (h : under? key pairs = some value) :
    ∃ k, (k, value) ∈ pairs := by
  obtain ⟨pair, hpair, rfl⟩ := Option.map_eq_some_iff.mp h
  exact ⟨pair.1, List.mem_of_find?_eq_some hpair⟩

end ModuleScript.Value
