import ModuleScript.Proofs.ImportMap.Typed
import ModuleScript.Proofs.ImportMap.WellFormed

/-!
# Typed import maps that can be built

However a typed import map is built, by changes of a new map or by reading a record, it is a map
that the same calls lead to when nothing checks any types. So its names are pairwise different and
none of them is empty.
-/

namespace ModuleScript.ImportMap

/-- Maps that are new or read, and what changes make of them. -/
inductive Reachable : ImportMap → Prop where
  | new (name : Option String) : Reachable { name }
  | read {v : Value} {m : ImportMap} (h : ofValue? v = .ok m) : Reachable m
  | change {m : ImportMap} (c : Change) (h : Reachable m) : Reachable (m.change c)

/-- What is read as a typed map is read as this map when types are not looked at. -/
theorem loose_ofValue? {v : Value} {m : ImportMap} (h : ofValue? v = .ok m) :
    LooseMap.ofValue? v = .ok m.loose := by
  obtain ⟨l, hl, h⟩ := LooseMap.ok_of_bind_eq_ok h
  rw [hl]
  split at h
  next typed htyped =>
    obtain rfl := Except.ok.inj h
    exact congrArg Except.ok (LooseMap.eq_loose_of_typed? htyped)
  next => exact absurd h (by simp [throw, throwThe, MonadExceptOf.throw])

/-- So calls lead to every typed map that can be built. -/
theorem Reachable.reachedBy {m : ImportMap} (h : Reachable m) :
    ∃ calls, LooseMap.ReachedBy calls m.loose := by
  induction h with
  | new name => exact ⟨[], _, .new (.ofText? name), rfl⟩
  | read h => exact ⟨[], _, .read (loose_ofValue? h), rfl⟩
  | @change m c _ ih =>
    obtain ⟨calls, start, hstart, hrun⟩ := ih
    refine ⟨calls ++ [c.loose], start, hstart, ?_⟩
    rw [LooseMap.run, List.foldl_append, m.loose_change c, ← hrun]
    rfl

/-- Names are pairwise different and not empty. -/
structure WellNamed (m : ImportMap) : Prop where
  nodup : m.names.Nodup
  named : ∀ name ∈ m.names, name ≠ ""

/-- However it is built, a map is well named. -/
theorem Reachable.wellNamed {m : ImportMap} (h : Reachable m) : m.WellNamed := by
  obtain ⟨calls, start, hstart, hrun⟩ := h.reachedBy
  obtain ⟨hdistinct, hnamed⟩ := hrun ▸ hstart.wellNamed calls
  rw [names_loose] at hdistinct hnamed
  constructor
  · refine (List.pairwise_map.mp hdistinct).imp fun {a b} hab ↦ ?_
    simpa using hab
  · intro name hname
    simpa [Value.isTruthy] using hnamed _ (List.mem_map_of_mem hname)

/-! ### Names after a change -/

theorem contains_iff_mem_names (m : ImportMap) (name : String) :
    m.contains name = true ↔ name ∈ m.names := by
  simp [contains, names]

/-- Scopes have names of their own. -/
theorem names_addScope {m m' : ImportMap} {scope name : String} {location : Option String}
    (h : m.addScope scope name location = .ok m') : m'.names = m.names := by
  rw [addScope] at h
  split at h
  · obtain rfl := Except.ok.inj h
    rfl
  · exact absurd h (by simp)

/-- A change of one entry that keeps its name keeps all names. -/
private theorem map_name_modifyEntry {change : Entry → Entry} (h : ∀ e, (change e).name = e.name)
    (name : String) (entries : List Entry) :
    (modifyEntry name change entries).map (·.name) = entries.map (·.name) := by
  induction entries with
  | nil => rfl
  | cons e rest ih =>
    rw [modifyEntry]
    split
    · rw [List.map_cons, List.map_cons, h]
    · rw [List.map_cons, List.map_cons, ih]

theorem names_categorize {m m' : ImportMap} {name : String} {kind framework : Value}
    (h : m.categorize name kind framework = .ok m') : m'.names = m.names := by
  rw [categorize] at h
  split at h
  · obtain rfl := Except.ok.inj h
    have hretag (e : Entry) : (e.retag kind framework).name = e.name := rfl
    exact map_name_modifyEntry hretag name m.entries
  · exact absurd h (by simp)

theorem names_autoCategorize (m : ImportMap) : m.autoCategorize.names = m.names := by
  have hname (e : Entry) : (tagByName e).name = e.name := by
    rw [tagByName]
    split <;> rfl
  simp [autoCategorize, names, hname]

/-! ### Adding entries -/

/-- An entry with a name that is new and not empty is appended. -/
theorem add_eq_ok {m : ImportMap} {e : Entry} (hname : e.name ≠ "") (hnew : e.name ∉ m.names) :
    m.add e = .ok { m with entries := m.entries ++ [e] } := by
  rw [add, if_neg (mt String.isEmpty_iff.mp hname),
    if_neg (mt (contains_iff_mem_names m e.name).mp hnew)]

/-- Entries with new names that are not empty and pairwise different are appended. -/
theorem foldlM_add_eq_ok {m : ImportMap} {entries : List Entry}
    (hnodup : (entries.map (·.name)).Nodup)
    (hnew : ∀ e ∈ entries, e.name ≠ "" ∧ e.name ∉ m.names) :
    entries.foldlM add m = .ok { m with entries := m.entries ++ entries } := by
  induction entries generalizing m with
  | nil =>
    rw [List.append_nil]
    rfl
  | cons e rest ih =>
    rw [List.map_cons, List.nodup_cons] at hnodup
    obtain ⟨⟨hname, hfresh⟩, hnew⟩ := List.forall_mem_cons.mp hnew
    have hrest := ih (m := { m with entries := m.entries ++ [e] }) hnodup.2 fun e' he' ↦ by
      refine ⟨(hnew e' he').1, fun hmem ↦ ?_⟩
      rw [names, List.map_append] at hmem
      rcases List.mem_append.mp hmem with hmem | hmem
      · exact (hnew e' he').2 hmem
      · rw [List.map_singleton, List.mem_singleton] at hmem
        exact hnodup.1 (hmem ▸ List.mem_map_of_mem he')
    rw [List.append_assoc, List.singleton_append] at hrest
    rw [List.foldlM_cons]
    exact LooseMap.bind_eq_ok (add_eq_ok hname hfresh) hrest

end ModuleScript.ImportMap
