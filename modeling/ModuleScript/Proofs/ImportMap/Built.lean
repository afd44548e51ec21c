import ModuleScript.Proofs.ImportMap.Calls

/-!
# Import maps that can be built

However an import map is built, from a new one or from one that was read, its names count as true
and are pairwise different, and its scopes are keyed by different paths. A reading is nothing but
calls that do not fail, and these leave no scope that overrides nothing.
-/

namespace ModuleScript.LooseMap

open ImportMap (Fault)

variable {m m' start : LooseMap} {v : Value}

/-! ### Building -/

/-- Maps that are new or read. -/
inductive Started : LooseMap → Prop
  | new (name : Value) : Started { name }
  | read {v : Value} {m : LooseMap} (h : ofValue? v = .ok m) : Started m

/-- What calls make of a new map as long as none of them fails. -/
inductive Built : LooseMap → Prop
  | new (name : Value) : Built { name }
  | call {m : LooseMap} (h : Built m) (c : Call) (hc : (m.call c).fault = none) :
    Built (m.call c).map

/-- What is left without a fault is the map. -/
theorem of_map?_eq_ok {left : Left} (h : left.map? = .ok m) : left.fault = none ∧ left.map = m := by
  rw [Left.map?] at h
  split at h
  next hfault => exact ⟨hfault, Except.ok.inj h⟩
  next => cases h

/-- A call that does not fail goes on with the map that it leaves. -/
theorem Built.of_map?_eq_ok (h : m.Built) (c : Call) (hc : (m.call c).map? = .ok m') :
    m'.Built := by
  obtain ⟨hfault, rfl⟩ := LooseMap.of_map?_eq_ok hc
  exact h.call c hfault

/-- What is not refused hands its result on. -/
theorem bind_eq_ok {α β : Type} {x : Except Fault α} {f : α → Except Fault β} {a : α} {b : β}
    (hx : x = .ok a) (hf : f a = .ok b) : (x >>= f) = .ok b := by
  rw [hx]
  exact hf

theorem ok_of_bind_eq_ok {α β : Type} {x : Except Fault α} {f : α → Except Fault β} {b : β}
    (h : (x >>= f) = .ok b) : ∃ a, x = .ok a ∧ f a = .ok b := by
  cases x with
  | error fault => exact absurd h (by simp [bind, Except.bind])
  | ok a => exact ⟨a, rfl, h⟩

/-- What every step of a reading preserves holds in the end, unless the reading fails. -/
theorem foldlM_preserves {α : Type} {step : LooseMap → α → Except Fault LooseMap}
    {p : LooseMap → Prop} (hstep : ∀ {m m' a}, p m → step m a = .ok m' → p m')
    {items : List α} (hm : p m) (h : items.foldlM step m = .ok m') : p m' := by
  induction items generalizing m with
  | nil => exact Except.ok.inj h ▸ hm
  | cons a items ih =>
    rw [List.foldlM_cons] at h
    obtain ⟨next, hnext, h⟩ := ok_of_bind_eq_ok h
    exact ih (hstep hm hnext) h

/-- Scopes are read by calls. -/
theorem Built.of_readScope (h : m.Built) {scope overrides : Value}
    (hread : m.readScope scope overrides = .ok m') : m'.Built := by
  obtain ⟨pairs, -, hread⟩ := ok_of_bind_eq_ok hread
  exact foldlM_preserves (p := Built)
    (fun {_ _ override} hm ↦ hm.of_map?_eq_ok (.addScope scope override.1 override.2)) h hread

/-- A reading is nothing but calls that do not fail. -/
theorem built_of_ofValue? (h : ofValue? v = .ok m) : m.Built := by
  obtain ⟨fields, -, h⟩ := ok_of_bind_eq_ok h
  obtain ⟨items, -, h⟩ := ok_of_bind_eq_ok h
  obtain ⟨m₀, hentries, h⟩ := ok_of_bind_eq_ok h
  obtain ⟨scopes, -, h⟩ := ok_of_bind_eq_ok h
  have hm₀ : m₀.Built := by
    refine foldlM_preserves (p := Built) ?_ (.new _) hentries
    intro m₁ m₂ item hm₁ hread
    obtain ⟨e, -, hadd⟩ := ok_of_bind_eq_ok hread
    exact hm₁.of_map?_eq_ok (.add e) hadd
  exact foldlM_preserves (p := Built) (fun hm hread ↦ hm.of_readScope hread) hm₀ h

/-- What new maps have and no call takes away, every map has that is new or read. -/
theorem Started.induct {p : LooseMap → Prop} (hnew : ∀ name, p { name })
    (hcall : ∀ m c, p m → p (m.call c).map) (h : Started start) : p start := by
  have hbuilt {m : LooseMap} (h : m.Built) : p m := by
    induction h with
    | new name => exact hnew name
    | call _ c _ ih => exact hcall _ c ih
  cases h with
  | new name => exact hnew name
  | read hv => exact hbuilt (built_of_ofValue? hv)

/-- Calls do not take it away either, whether they fail or not. -/
theorem run_induct {p : LooseMap → Prop} (hcall : ∀ m c, p m → p (m.call c).map) (h : p m)
    (calls : List Call) : p (m.run calls) := by
  induction calls generalizing m with
  | nil => exact h
  | cons c rest ih => exact ih (hcall m c h)

/-! ### Names -/

/-- Names count as true, and none of them equals one that comes after it. -/
structure WellNamed (m : LooseMap) : Prop where
  distinct : m.names.Pairwise fun a b ↦ a.same b = false
  named : ∀ name ∈ m.names, name.isTruthy = true

/-- Maps with the same names are well named together. -/
theorem WellNamed.of_names_eq (h : m.WellNamed) (heq : m'.names = m.names) : m'.WellNamed :=
  ⟨heq ▸ h.distinct, heq ▸ h.named⟩

/-- Entries that are the same but for their tags have the same names. -/
theorem names_of_untagged_eq
    (h : m'.entries.map LooseEntry.untagged = m.entries.map LooseEntry.untagged) :
    m'.names = m.names := by
  have hnames (m : LooseMap) : m.names = (m.entries.map LooseEntry.untagged).map (·.1) := by
    rw [List.map_map]
    rfl
  rw [hnames, hnames, h]

theorem AreTagged.untagged_eq {entries entries' : List LooseEntry}
    (h : AreTagged entries entries') :
    entries'.map LooseEntry.untagged = entries.map LooseEntry.untagged := by
  induction h with
  | nil => rfl
  | cons he _ ih => rw [List.map_cons, List.map_cons, (of_tagByName?_eq_ok he).2.1, ih]

/-- Tagging changes nothing about an entry but its tags. -/
theorem untagged_autoCategorize (m : LooseMap) : m.autoCategorize.map.entries.map
    LooseEntry.untagged = m.entries.map LooseEntry.untagged := by
  rcases m.autoCategorize_cases with
    ⟨entries', htagged, h⟩ | ⟨before, before', e, after, fault, hentries, hbefore, -, h⟩
  · rw [h]
    exact htagged.untagged_eq
  · rw [h, hentries, List.map_append, List.map_append, hbefore.untagged_eq]

/-- A name is new and counts as true where an entry is added. No other call changes names. -/
theorem WellNamed.call (hm : m.WellNamed) (c : Call) : (m.call c).map.WellNamed := by
  cases c with
  | add e =>
    rw [LooseMap.call]
    rcases m.add_cases e with ⟨fault, h⟩ | ⟨hname, hnew, h⟩
    · rw [h]
      exact hm
    · have hnames : ({ m with entries := m.entries ++ [e] } : LooseMap).names =
          m.names ++ [e.name] := by simp [names]
      rw [h]
      constructor
      · rw [hnames, List.pairwise_append]
        refine ⟨hm.distinct, List.pairwise_singleton _ _, fun a ha b hb ↦ ?_⟩
        exact List.mem_singleton.mp hb ▸ hnew a ha
      · rw [hnames]
        intro name hmem
        rcases List.mem_append.mp hmem with hmem | hmem
        · exact hm.named name hmem
        · exact List.mem_singleton.mp hmem ▸ hname
  | addScope scope name location =>
    exact hm.of_names_eq (congrArg (·.map (·.name)) (m.entries_addScope scope name location))
  | categorize name kind framework =>
    rw [LooseMap.call]
    rcases m.categorize_cases name kind framework with
      ⟨fault, h⟩ | ⟨before, e, after, hentries, -, -, h⟩
    · rw [h]
      exact hm
    · rw [h]
      refine hm.of_names_eq (names_of_untagged_eq ?_)
      rw [hentries, List.map_append, List.map_append]
      rfl
  | autoCategorize => exact hm.of_names_eq (names_of_untagged_eq m.untagged_autoCategorize)

/-- However it is built, a map is well named. -/
theorem Started.wellNamed (h : Started start) (calls : List Call) :
    (start.run calls).WellNamed := by
  have hnew (name : Value) : WellNamed { name } := ⟨.nil, by simp [names]⟩
  exact run_induct (fun _ c hm ↦ hm.call c) (h.induct hnew fun _ c hm ↦ hm.call c) calls

/-! ### Scopes -/

/-- Scopes are keyed by different paths, and each overrides the locations of different names. -/
structure WellScoped (m : LooseMap) : Prop where
  distinct : Value.Distinct (m.scopes.map (·.1))
  isPath : ∀ scope ∈ m.scopes, IsPath scope.1
  distinctNames : ∀ scope ∈ m.scopes, Value.Distinct (scope.2.map (·.1))
  areKeys : ∀ scope ∈ m.scopes, ∀ override ∈ scope.2, override.1.isKey = true

/-- Maps with the same scopes are well scoped together. -/
theorem WellScoped.of_scopes_eq (h : m.WellScoped) (heq : m'.scopes = m.scopes) :
    m'.WellScoped :=
  ⟨heq ▸ h.distinct, heq ▸ h.isPath, heq ▸ h.distinctNames, heq ▸ h.areKeys⟩

/-- The overrides of a scope are those of some scope, or there are none. -/
theorem overrides_cases (m : LooseMap) (scope : Value) :
    m.overrides scope = [] ∨ ∃ k, (k, m.overrides scope) ∈ m.scopes := by
  rw [overrides]
  cases h : Value.under? scope m.scopes with
  | none => exact .inl rfl
  | some overrides => exact .inr (Value.exists_mem_of_under? h)

/-- A path can be given overrides of different names. -/
theorem WellScoped.setScope (hm : m.WellScoped) {scope : Value} (hscope : IsPath scope)
    {overrides : List (Value × Value)} (hdistinct : Value.Distinct (overrides.map (·.1)))
    (hkeys : ∀ override ∈ overrides, override.1.isKey = true) :
    (m.setScope scope overrides).WellScoped where
  distinct := hm.distinct.put scope overrides
  isPath other hother := by
    rcases Value.mem_put hother with hmem | ⟨-, heq | hmem⟩
    · exact hm.isPath other hmem
    · exact heq ▸ hscope
    · obtain ⟨same, hsame, heq⟩ := List.mem_map.mp hmem
      exact heq ▸ hm.isPath same hsame
  distinctNames other hother := by
    rcases Value.mem_put hother with hmem | ⟨heq, -⟩
    · exact hm.distinctNames other hmem
    · exact heq ▸ hdistinct
  areKeys other hother := by
    rcases Value.mem_put hother with hmem | ⟨heq, -⟩
    · exact hm.areKeys other hmem
    · exact heq ▸ hkeys

/-- Only paths become keys of scopes, and only keys are overridden. No other call changes scopes. -/
theorem WellScoped.call (hm : m.WellScoped) (c : Call) : (m.call c).map.WellScoped := by
  cases c with
  | add e =>
    rw [LooseMap.call]
    rcases m.add_cases e with ⟨fault, h⟩ | ⟨-, -, h⟩ <;> rw [h]
    · exact hm
    · exact hm.of_scopes_eq rfl
  | addScope scope name location =>
    have hbefore : Value.Distinct ((m.overrides scope).map (·.1)) ∧
        ∀ override ∈ m.overrides scope, override.1.isKey = true := by
      rcases m.overrides_cases scope with h | ⟨k, hmem⟩
      · rw [h]
        exact ⟨.nil, by simp⟩
      · exact ⟨hm.distinctNames _ hmem, hm.areKeys _ hmem⟩
    rw [LooseMap.call]
    rcases m.addScope_cases scope name location with ⟨fault, h⟩ | ⟨hscope, -, h⟩ |
      ⟨hscope, hname, h⟩
    · rw [h]
      exact hm
    · rw [h]
      exact hm.setScope hscope hbefore.1 hbefore.2
    · rw [h]
      refine hm.setScope hscope (hbefore.1.put name location) fun override hoverride ↦ ?_
      rcases Value.mem_put hoverride with hmem | ⟨-, heq | hmem⟩
      · exact hbefore.2 override hmem
      · exact heq ▸ hname
      · obtain ⟨same, hsame, heq⟩ := List.mem_map.mp hmem
        exact heq ▸ hbefore.2 same hsame
  | categorize name kind framework =>
    rw [LooseMap.call]
    rcases m.categorize_cases name kind framework with ⟨fault, h⟩ | ⟨_, _, _, -, -, -, h⟩ <;> rw [h]
    · exact hm
    · exact hm.of_scopes_eq rfl
  | autoCategorize => exact hm.of_scopes_eq rfl

end ModuleScript.LooseMap
