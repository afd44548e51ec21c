import ModuleScript.Proofs.ImportMap.Built

/-!
# What the data of a map lists

A map that is read has one entry for each item of its data, in the same order; scopes add none.
Whatever values names and locations are, they are those of the items.
-/

namespace ModuleScript.LooseMap

open ImportMap (Fault)

/-- The items that the data of a map lists. -/
def listed (v : Value) : Except Fault (List Value) := do
  importItems ((field "imports" (← needPairs v)).orElse (.list []))

/-- The fields of an item are typed: its name is a text, and its location is a text or null. -/
def itemIsTyped (item : Value) : Bool :=
  item.pairs?.all fun pairs ↦
    (Value.get? "name" pairs).all (·.toText?.isSome) &&
      (Value.get? "location" pairs).all fun location ↦ location.isNull || location.toText?.isSome

/-- All items of the data of a map are typed. -/
def isTyped (v : Value) : Bool :=
  match listed v with
  | .ok items => items.all itemIsTyped
  | .error _ => true

variable {m m' : LooseMap}

/-- An entry is added if its name counts as true and is new. -/
theorem map?_add_eq_ok_iff {e : LooseEntry} : (m.add e).map? = .ok m' ↔
    e.name.isTruthy = true ∧ (∀ other ∈ m.names, other.same e.name = false) ∧
      m' = { m with entries := m.entries ++ [e] } := by
  constructor
  · intro h
    obtain ⟨hfault, hmap⟩ := of_map?_eq_ok h
    rcases m.add_cases e with ⟨fault, hadd⟩ | ⟨hname, hnew, hadd⟩
    · rw [hadd] at hfault
      cases hfault
    · rw [hadd] at hmap
      exact ⟨hname, hnew, hmap.symm⟩
  · rintro ⟨hname, hnew, rfl⟩
    rw [add, hname, contains_eq_false_iff.mpr hnew]
    rfl

/-- Scopes are read without a change of the entries. -/
theorem entries_foldlM_readScope {scopes : List (Value × Value)}
    (h : scopes.foldlM (fun m scope ↦ m.readScope scope.1 scope.2) m = .ok m') :
    m'.entries = m.entries := by
  refine foldlM_preserves (p := fun next ↦ next.entries = m.entries) ?_ rfl h
  intro m₁ m₂ scope h₁ h₂
  obtain ⟨pairs, -, h₂⟩ := ok_of_bind_eq_ok h₂
  refine foldlM_preserves (p := fun next ↦ next.entries = m.entries) ?_ h₁ h₂
  intro m₃ m₄ override h₃ h₄
  obtain ⟨-, rfl⟩ := of_map?_eq_ok h₄
  exact (m₃.entries_addScope scope.1 override.1 override.2).trans h₃

/-- Items that can be read as entries whose names count as true and are pairwise different. -/
structure Accepted (items : List Value) (entries : List LooseEntry) : Prop where
  read : List.Forall₂ (fun item e ↦ entryOf item = .ok e ∧ e.name.isTruthy = true) items entries
  distinct : (entries.map (·.name)).Pairwise fun a b ↦ a.same b = false

/-- Items are added one by one, each as the entry that is read from it, if the names are new. -/
theorem foldlM_readEntry_eq_ok_iff {items : List Value} :
    items.foldlM readEntry m = .ok m' ↔
      ∃ entries, Accepted items entries ∧
        (∀ e ∈ entries, ∀ other ∈ m.names, other.same e.name = false) ∧
        m' = { m with entries := m.entries ++ entries } := by
  induction items generalizing m with
  | nil =>
    constructor
    · intro h
      exact ⟨[], ⟨.nil, .nil⟩, by simp, by rw [← Except.ok.inj h, List.append_nil]⟩
    · rintro ⟨_, ⟨hread, -⟩, -, rfl⟩
      cases hread
      rw [List.append_nil]
      rfl
  | cons item rest ih =>
    have hnames (e : LooseEntry) : ({ m with entries := m.entries ++ [e] } : LooseMap).names =
        m.names ++ [e.name] := by simp [names]
    rw [List.foldlM_cons]
    constructor
    · intro h
      obtain ⟨next, hitem, h⟩ := ok_of_bind_eq_ok h
      obtain ⟨e, he, hadd⟩ := ok_of_bind_eq_ok hitem
      obtain ⟨hname, hnew, rfl⟩ := map?_add_eq_ok_iff.mp hadd
      obtain ⟨entries, ⟨hread, hdistinct⟩, hfresh, rfl⟩ := ih.mp h
      rw [hnames] at hfresh
      refine ⟨e :: entries, ⟨.cons ⟨he, hname⟩ hread, ?_⟩, ?_, by simp⟩
      · rw [List.map_cons, List.pairwise_cons]
        refine ⟨fun other hother ↦ ?_, hdistinct⟩
        obtain ⟨e', he', rfl⟩ := List.mem_map.mp hother
        exact hfresh e' he' _ (List.mem_append_right _ (List.mem_singleton_self _))
      · rw [List.forall_mem_cons]
        exact ⟨hnew, fun e' he' other hother ↦
          hfresh e' he' other (List.mem_append_left _ hother)⟩
    · rintro ⟨_, ⟨hread, hdistinct⟩, hfresh, rfl⟩
      cases hread with
      | @cons _ e _ entries he hread =>
        rw [List.map_cons, List.pairwise_cons] at hdistinct
        rw [List.forall_mem_cons] at hfresh
        refine bind_eq_ok (bind_eq_ok he.1
          (map?_add_eq_ok_iff.mpr ⟨he.2, hfresh.1, rfl⟩)) (ih.mpr ?_)
        refine ⟨entries, ⟨hread, hdistinct.2⟩, fun e' he' other hother ↦ ?_, by simp⟩
        rw [hnames] at hother
        rcases List.mem_append.mp hother with hother | hother
        · exact hfresh.2 e' he' other hother
        · exact List.mem_singleton.mp hother ▸ hdistinct.1 _ (List.mem_map_of_mem he')

/-- A new map takes the items that are accepted. -/
theorem foldlM_readEntry_new_eq_ok_iff {items : List Value} {name : Value} :
    items.foldlM readEntry ({ name } : LooseMap) = .ok m ↔
      ∃ entries, Accepted items entries ∧ m = { name, entries } := by
  rw [foldlM_readEntry_eq_ok_iff]
  simp [names]

/-- The entries of a map that is read are those of the items that its data lists. -/
theorem exists_listed_of_ofValue? {v : Value} (h : ofValue? v = .ok m) :
    ∃ items, listed v = .ok items ∧ Accepted items m.entries := by
  obtain ⟨fields, hfields, h⟩ := ok_of_bind_eq_ok h
  obtain ⟨items, hitems, h⟩ := ok_of_bind_eq_ok h
  obtain ⟨m₀, hadd, h⟩ := ok_of_bind_eq_ok h
  obtain ⟨scopes, -, h⟩ := ok_of_bind_eq_ok h
  obtain ⟨entries, haccepted, rfl⟩ := foldlM_readEntry_new_eq_ok_iff.mp hadd
  refine ⟨items, ?_, ?_⟩
  · rw [listed, hfields]
    exact hitems
  · rw [entries_foldlM_readScope h]
    exact haccepted

end ModuleScript.LooseMap
