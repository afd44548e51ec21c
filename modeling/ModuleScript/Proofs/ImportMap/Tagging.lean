import ModuleScript.Proofs.ImportMap.Built

/-!
# Tagging while a map is built

Tagging by name looks at nothing but the entries themselves and leaves tags that are there alone,
and whether something can be added depends on names only. So it makes no difference when and how
often a map is tagged while it is built, as long as it is tagged in the end. This holds of maps with
names that cannot be searched as well, since tagging comes to the same one of them every time.
-/

namespace ModuleScript.LooseMap

open ImportMap (Fault)

variable {m m' : LooseMap}

/-- Whether a call adds a module or a scope. -/
def Call.isAddition : Call → Bool
  | .add _ | .addScope .. => true
  | .categorize .. | .autoCategorize => false

/-- The additions among some calls in order, each with the fault with which it fails, if it does. -/
def additions : LooseMap → List Call → List (Call × Option Fault)
  | _, [] => []
  | m, c :: rest =>
    if c.isAddition then (c, (m.call c).fault) :: (m.call c).map.additions rest
    else (m.call c).map.additions rest

/-! ### Tagging twice -/

theorem AreTagged.isTagged {entries entries' : List LooseEntry} (h : AreTagged entries entries') :
    ∀ e ∈ entries', e.isTagged = true := by
  induction h with
  | nil => simp
  | cons he _ ih => exact List.forall_mem_cons.mpr ⟨(of_tagByName?_eq_ok he).1, ih⟩

/-- What is tagged can be tagged again, and stays as it is. -/
theorem AreTagged.again {entries entries' : List LooseEntry} (h : AreTagged entries entries') :
    AreTagged entries' entries' := by
  rw [AreTagged, List.forall₂_same]
  exact fun e he ↦ tagByName?_of_isTagged (h.isTagged e he)

/-- Tagging a second time changes nothing and ends in the same way. -/
theorem tagEntries_tagEntries (entries : List LooseEntry) :
    tagEntries (tagEntries entries).1 = tagEntries entries := by
  rcases areTagged_or_exists_first entries with
    ⟨entries', h⟩ | ⟨before, before', e, after, fault, rfl, hbefore, he⟩
  · rw [h.tagEntries_eq, h.again.tagEntries_eq]
  · rw [hbefore.tagEntries_append he, hbefore.again.tagEntries_append he]

/-- A further entry is tagged if those before it are. -/
theorem tagEntries_concat (entries : List LooseEntry) (e : LooseEntry) :
    tagEntries (entries ++ [e]) = match tagEntries entries with
      | (tagged, none) => (tagged ++ (tagEntries [e]).1, (tagEntries [e]).2)
      | (tagged, some fault) => (tagged ++ [e], some fault) := by
  induction entries with
  | nil => rfl
  | cons other rest ih =>
    rw [List.cons_append, tagEntries, tagEntries]
    cases other.tagByName? with
    | error fault => rfl
    | ok tagged =>
      rw [ih]
      rcases tagEntries rest with ⟨others, _ | fault⟩ <;> rfl

/-! ### Maps that are the same once they are tagged -/

/-- Two maps differ at most in tags that tagging by name gives, and it ends with both in the same
way. -/
structure SameTagged (m m' : LooseMap) : Prop where
  name : m.name = m'.name
  entries : tagEntries m.entries = tagEntries m'.entries
  scopes : m.scopes = m'.scopes

namespace SameTagged

theorem refl (m : LooseMap) : m.SameTagged m := ⟨rfl, rfl, rfl⟩

/-- One of them may be tagged. -/
theorem autoCategorize_left (h : m.SameTagged m') : (m.call .autoCategorize).map.SameTagged m' where
  name := h.name
  entries := (tagEntries_tagEntries m.entries).trans h.entries
  scopes := h.scopes

/-- Once both are tagged, they are the same. -/
theorem autoCategorize_eq (h : m.SameTagged m') :
    m.call .autoCategorize = m'.call .autoCategorize := by
  rw [call, call, autoCategorize, autoCategorize, h.name, h.entries, h.scopes]

theorem names_eq (h : m.SameTagged m') : m.names = m'.names := by
  rw [← names_of_untagged_eq m.untagged_autoCategorize,
    ← names_of_untagged_eq m'.untagged_autoCategorize]
  exact congrArg (fun left ↦ left.map.names) h.autoCategorize_eq

theorem contains_eq (h : m.SameTagged m') (name : Value) : m.contains name = m'.contains name := by
  have hcontains (m : LooseMap) : m.contains name = m.names.any (·.same name) := by
    rw [names, List.any_map]
    rfl
  rw [hcontains, hcontains, h.names_eq]

/-- With the same overrides, a scope is set for both. -/
theorem setScope (h : m.SameTagged m') (scope : Value) (overrides : List (Value × Value)) :
    (m.setScope scope overrides).SameTagged (m'.setScope scope overrides) :=
  ⟨h.name, h.entries, congrArg (Value.put scope overrides) h.scopes⟩

/-- An addition keeps them so, and it fails in the same way if it does. -/
theorem call (h : m.SameTagged m') {c : Call} (hc : c.isAddition = true) :
    (m.call c).fault = (m'.call c).fault ∧ (m.call c).map.SameTagged (m'.call c).map := by
  cases c with
  | add e =>
    rw [LooseMap.call, LooseMap.call, add, add, h.contains_eq, h.name]
    split
    · exact ⟨rfl, h⟩
    · split
      · exact ⟨rfl, h⟩
      · refine ⟨rfl, rfl, ?_, h.scopes⟩
        rw [tagEntries_concat, tagEntries_concat, h.entries]
  | addScope scope name location =>
    have hoverrides : m.overrides scope = m'.overrides scope := by
      rw [overrides, overrides, h.scopes]
    rw [LooseMap.call, LooseMap.call, addScope, addScope, hoverrides]
    split
    · exact ⟨rfl, h⟩
    · exact ⟨rfl, h⟩
    · split
      · exact ⟨rfl, h.setScope scope _⟩
      · exact ⟨rfl, h.setScope scope _⟩
  | categorize name kind framework => cases hc
  | autoCategorize => cases hc

end SameTagged

/-! ### Building -/

/-- Additions have the same fate, and lead to the same map up to tagging, if the map is tagged by
name between them as often as one likes. -/
theorem SameTagged.build (h : m.SameTagged m') {calls : List Call}
    (hcalls : ∀ c ∈ calls, c.isAddition = true ∨ c = .autoCategorize) :
    (m.run calls).SameTagged (m'.run (calls.filter (·.isAddition))) ∧
      m.additions calls = m'.additions (calls.filter (·.isAddition)) := by
  induction calls generalizing m m' with
  | nil => exact ⟨h, rfl⟩
  | cons c rest ih =>
    obtain ⟨hfirst, hrest⟩ := List.forall_mem_cons.mp hcalls
    rcases hfirst with hc | rfl
    · obtain ⟨hfault, hmap⟩ := h.call hc
      obtain ⟨hrun, hadditions⟩ := ih hmap hrest
      rw [List.filter_cons_of_pos hc]
      refine ⟨hrun, ?_⟩
      rw [additions, additions, if_pos hc, if_pos hc, hfault, hadditions]
    · exact ih h.autoCategorize_left hrest

/-- Entries whose names can be searched are tagged. -/
theorem isTagged_of_mem_autoCategorize (hnames : ∀ name ∈ m.names, name.points? ≠ none)
    {e : LooseEntry} (h : e ∈ (m.call .autoCategorize).map.entries) : e.isTagged = true := by
  obtain ⟨entries', htagged⟩ : ∃ entries', AreTagged m.entries entries' :=
    exists_areTagged fun e he ↦ .inr (hnames _ (List.mem_map_of_mem he))
  rw [LooseMap.call, autoCategorize, htagged.tagEntries_eq] at h
  exact htagged.isTagged e h

/-- Let a map be built by additions, some of which may fail, and be tagged by name before, between
and after them. In the end it is the map that the additions alone would have made of it, tagged
once, and the last tagging ends as it would have then; if all names can be searched, every entry is
tagged. Each addition fails or not as it would have without tagging, with the same fault. To tag a
map again changes nothing. -/
theorem tagging_commutes_with_building (m : LooseMap) {calls : List Call}
    (hcalls : ∀ c ∈ calls, c.isAddition = true ∨ c = .autoCategorize) :
    m.run (calls ++ [.autoCategorize]) =
        m.run (calls.filter (·.isAddition) ++ [.autoCategorize]) ∧
      ((m.run calls).call .autoCategorize).fault =
        ((m.run (calls.filter (·.isAddition))).call .autoCategorize).fault ∧
      m.additions (calls ++ [.autoCategorize]) = m.additions (calls.filter (·.isAddition)) ∧
      ((∀ name ∈ (m.run calls).names, name.points? ≠ none) →
        ∀ e ∈ (m.run (calls ++ [.autoCategorize])).entries, e.isTagged = true) ∧
      (m.call .autoCategorize).map.call .autoCategorize = m.call .autoCategorize := by
  have hrun (calls : List Call) :
      m.run (calls ++ [.autoCategorize]) = ((m.run calls).call .autoCategorize).map :=
    List.foldl_append
  obtain ⟨hmap, -⟩ := (SameTagged.refl m).build hcalls
  have hlast : ∀ c ∈ calls ++ [.autoCategorize], c.isAddition = true ∨ c = .autoCategorize := by
    intro c hc
    rcases List.mem_append.mp hc with hc | hc
    · exact hcalls c hc
    · exact .inr (List.mem_singleton.mp hc)
  obtain ⟨-, hadditions⟩ := (SameTagged.refl m).build hlast
  have hfilter : (calls ++ [Call.autoCategorize]).filter (·.isAddition) =
      calls.filter (·.isAddition) := by
    rw [List.filter_append]
    exact List.append_nil _
  refine ⟨?_, congrArg Left.fault hmap.autoCategorize_eq, hfilter ▸ hadditions,
    fun hnames e he ↦ ?_, (SameTagged.refl m).autoCategorize_left.autoCategorize_eq⟩
  · rw [hrun, hrun, hmap.autoCategorize_eq]
  · exact isTagged_of_mem_autoCategorize hnames (hrun calls ▸ he)

/-- An empty text counts as a tag, and a module that was tagged early is refused when it is added
again. -/
theorem tagging_early_changes_nothing :
    ∃ (m : LooseMap) (calls : List Call),
      (∀ c ∈ calls, c.isAddition = true ∨ c = .autoCategorize) ∧
      (m.additions calls).map (·.2.map Fault.message) = [none,
        some "Import 'vue' is already present in import map 'shop'", none,
        some "Scope key must start with `/`, `./`, or `../`"] ∧
      m.additions (calls ++ [.autoCategorize]) = m.additions (calls.filter (·.isAddition)) ∧
      m.run (calls ++ [.autoCategorize]) =
        m.run (calls.filter (·.isAddition) ++ [.autoCategorize]) ∧
      (m.run (calls ++ [.autoCategorize])).entries = [
        { name := .text "lodash", location := .null, kind := .text "" },
        { name := .text "vue", location := .null, kind := .text "framework"
          framework := .text "vue" },
        { name := .text "HelloController", location := .null, kind := .text "controller"
          framework := .text "stimulus" }] := by
  let m : LooseMap :=
    { name := .text "shop"
      entries := [{ name := .text "lodash", location := .null, kind := .text "" }] }
  let calls : List Call :=
    [.add { name := .text "vue", location := .null }, .autoCategorize,
     .add { name := .text "vue", location := .text "/vue.js", kind := .text "library" },
     .autoCategorize, .add { name := .text "HelloController", location := .null },
     .addScope (.text "shop/") (.text "vue") .null]
  have hcalls : ∀ c ∈ calls, c.isAddition = true ∨ c = .autoCategorize := by
    simp [calls, Call.isAddition]
  obtain ⟨hmap, -, hadditions, -⟩ := tagging_commutes_with_building m hcalls
  exact ⟨m, calls, hcalls, by decide +kernel, hadditions, hmap, rfl⟩

end ModuleScript.LooseMap
