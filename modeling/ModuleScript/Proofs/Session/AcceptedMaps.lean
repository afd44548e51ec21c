import ModuleScript.Proofs.Render.Failures
import ModuleScript.Proofs.Session.Workshop

/-!
# Rendering over maps that were read

Whatever data a map was read from, a plain renderer over it never fails, and no renderer fails to
tell what is missing. The renderer of an application fails at an item without a location, unless
the item's name tells whether it loads the package.
-/

namespace ModuleScript.Workshop

open Store Stimulus

/-- After any steps, the caches keep in each partition what belongs there. -/
theorem holds_proper_run (steps : List Step) : (run {} steps).store.Holds Proper :=
  keeps_run (stable_holds _) (cold_empty.holds _) steps fun c _ q ↦ c.keeps_proper q

/-- A renderer that does not fail, whether it renders a script, renders one with warnings or tells
what is missing. -/
def Unfailing (s : Store) (r : Renderer) (m : ImportMap) : Prop :=
  (∃ script, ((r.render m).run s).1 = .ok script) ∧
    (∃ script, ((r.renderWithWarnings m).run s).1 = .ok script) ∧
    ∃ missing, ((r.missing m).run s).1 = .ok missing

/-- From proper caches, a renderer does not fail if its imports do not fail without caches. -/
theorem unfailing_of_exists_importText {s : Store} (hs : s.Holds Proper) {r : Renderer}
    {m : ImportMap} (hrules : ∀ a, r.analyzer = some a → a.rules.Grouped)
    (h : ∃ text, r.importText m = .ok text) : Unfailing s r m := by
  obtain ⟨script, hscript, -⟩ := (Renderer.ensures_render_gives h s hs).2
  obtain ⟨warned, hwarned, -⟩ := (Renderer.ensures_renderWithWarnings_gives hrules h s hs).2
  obtain ⟨missing, hmissing, -⟩ := (Renderer.ensures_missing_gives hrules m s hs).2
  exact ⟨⟨script, hscript⟩, ⟨warned, hwarned⟩, missing, hmissing⟩

/-- What becomes of a map that is read from typed data, without analysis or with the bundled rules.
Its entries are typed, so that a renderer sees all of them. A plain renderer does not fail, whatever
its block and whatever happened before. Neither does the renderer of an application with an accepted
name, if no item of the data needs a location. If some item does, the renderer still tells what is
missing, but no script is rendered where nothing is kept. -/
theorem accepted_maps_render_unless_locations_are_needed (steps : List Step) {v : Value}
    {l : LooseMap} (hl : LooseMap.ofValue? v = .ok l) (htyped : LooseMap.isTyped v = true)
    (block : String) {analyzer : Option Analyzer}
    (hrules : analyzer = none ∨ analyzer = some .bundled) :
    l.entries = l.outline.entries.map Entry.loose ∧
    Unfailing (run {} steps).store (.ofBlock block analyzer) l.outline ∧
    ∃ items, LooseMap.listed v = .ok items ∧
      ∀ given, Script.isIdentifier (Renderer.nameOr "application" given) = true →
        ∃ r, Renderer.stimulus? l.outline.names block given analyzer = .ok r ∧
          ((∀ item ∈ items, needsLocation item = false) →
            Unfailing (run {} steps).store r l.outline) ∧
          ((∃ item ∈ items, needsLocation item = true) →
            (∃ missing, ((r.missing l.outline).run (run {} steps).store).1 = .ok missing) ∧
            ∃ name ∈ l.outline.names, ∀ s : Store, s.Cold →
              ((r.render l.outline).run s).1 = .error (.noLocation name) ∧
              ((r.renderWithWarnings l.outline).run s).1 = .error (.noLocation name)) := by
  have hproper := holds_proper_run steps
  have hgrouped : ∀ a, analyzer = some a → a.rules.Grouped := by
    rintro a rfl
    rcases hrules with h | h
    · exact absurd h (by simp)
    · obtain rfl := Option.some.inj h
      exact RuleSet.grouped_bundled
  obtain ⟨items, hlisted, hall⟩ := LooseMap.exists_listed_of_ofValue? hl
  rw [LooseMap.isTyped, hlisted] at htyped
  have hfirst := find?_undecided hall.read htyped
  have hdecided (h : ∀ item ∈ items, needsLocation item = false) :
      ∀ e ∈ l.outline.entries, ¬ Undecided e := by
    have hnone : items.find? needsLocation = none :=
      List.find?_eq_none.mpr fun item hitem ↦ by simp [h item hitem]
    rw [hnone, Option.map_none, Option.map_eq_none_iff] at hfirst
    intro e he hundecided
    obtain ⟨loose, hloose, rfl⟩ := List.mem_map.mp he
    exact List.find?_eq_none.mp hfirst loose hloose (decide_eq_true hundecided)
  have hundecided (h : ∃ item ∈ items, needsLocation item = true) :
      ∃ e, l.outline.entries.find? (Undecided ·) = some e := by
    obtain ⟨item, hitem⟩ := Option.isSome_iff_exists.mp (List.find?_isSome.mpr h)
    rw [hitem] at hfirst
    obtain ⟨e, he, -⟩ := Option.map_eq_some_iff.mp hfirst
    refine ⟨e.outline, ?_⟩
    rw [LooseMap.outline, List.find?_map]
    exact congrArg (Option.map LooseEntry.outline) he
  refine ⟨entries_eq_loose_outline hall.read htyped,
    unfailing_of_exists_importText hproper hgrouped ⟨_, rfl⟩, items, hlisted, fun given hname ↦ ?_⟩
  let r : Renderer := {
    kind := .stimulus (.discover (Renderer.nameOr "application" given) l.outline.names block)
    block, analyzer }
  refine ⟨r, Renderer.stimulus?_of_isIdentifier l.outline.names block analyzer hname, fun h ↦ ?_,
    fun h ↦ ⟨?_, ?_⟩⟩
  · exact unfailing_of_exists_importText hproper hgrouped
      (Renderer.exists_importText rfl (hdecided h))
  · obtain ⟨missing, hmissing, -⟩ :=
      (Renderer.ensures_missing_gives (r := r) hgrouped l.outline _ hproper).2
    exact ⟨missing, hmissing⟩
  · obtain ⟨e, he⟩ := hundecided h
    exact ⟨e.name, List.mem_map_of_mem (List.mem_of_find?_eq_some he),
      fun s hs ↦ Renderer.run_of_undecided rfl hgrouped he hs⟩

/-- A map of locations by name that is accepted with null as a location. -/
theorem null_location_keeps_application_from_rendering :
    ∃ (v : Value) (l : LooseMap), v = .record [("imports", .record [("x", .null)])] ∧
      LooseMap.ofValue? v = .ok l ∧ LooseMap.isTyped v = true ∧
      Unfailing {} (.ofBlock "run();" (some .bundled)) l.outline ∧
      ∃ r, Renderer.stimulus? l.outline.names "run();" none (some .bundled) = .ok r ∧
        (∃ missing, ((r.missing l.outline).run {}).1 = .ok missing) ∧
        ((r.render l.outline).run {}).1 = .error (.noLocation "x") ∧
        ((r.renderWithWarnings l.outline).run {}).1 = .error (.noLocation "x") := by
  let v : Value := .record [("imports", .record [("x", .null)])]
  let l : LooseMap := { entries := [{ name := .text "x", location := .null }] }
  have hl : LooseMap.ofValue? v = .ok l := rfl
  have htyped : LooseMap.isTyped v = true := by decide
  obtain ⟨-, hplain, items, hlisted, happlication⟩ :=
    accepted_maps_render_unless_locations_are_needed [] hl htyped "run();" (.inr rfl)
  obtain rfl := Except.ok.inj hlisted
  obtain ⟨r, hr, -, hneeded⟩ := happlication none (by decide)
  obtain ⟨hmissing, name, hname, hfails⟩ := hneeded ⟨_, List.mem_singleton_self _, by decide⟩
  obtain rfl := List.mem_singleton.mp hname
  exact ⟨v, l, rfl, hl, htyped, hplain, r, hr, hmissing, hfails {} Store.cold_empty⟩

end ModuleScript.Workshop
