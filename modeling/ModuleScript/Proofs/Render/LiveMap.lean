import Mathlib.Data.List.Nodup
import ModuleScript.Proofs.Render.Controllers

/-!
# Scripts of a map that goes on changing

A renderer of an application looks for controllers when it is made, but imports what its map holds
when it renders. Changes of the map in between lose no name, so all that is registered for the map
is still imported; names that were added since are imported, and not registered unless the block
registers or imports them by itself.
-/

namespace ModuleScript

namespace ImportMap

/-- A change adds names behind those that are there, or none. -/
theorem exists_names_change (m : ImportMap) (c : Change) :
    ∃ more, (m.change c).names = m.names ++ more := by
  have same {m' : ImportMap} (h : m'.names = m.names) : ∃ more, m'.names = m.names ++ more :=
    ⟨[], by rw [h, List.append_nil]⟩
  rw [change]
  cases h : m.change? c with
  | error fault => exact same rfl
  | ok m' =>
    cases c with
    | add e =>
      have hadd : m.add e = .ok m' := h
      rw [ImportMap.add] at hadd
      split at hadd
      · exact absurd hadd (by simp)
      · split at hadd
        · exact absurd hadd (by simp)
        · obtain rfl := Except.ok.inj hadd
          exact ⟨[e.name], by simp [names, Except.toOption]⟩
    | addScope scope name location => exact same (names_addScope h)
    | categorize name kind framework => exact same (names_categorize h)
    | autoCategorize =>
      obtain rfl := Except.ok.inj h
      exact same m.names_autoCategorize

/-- So do any changes. -/
theorem exists_names_changes (m : ImportMap) (changes : List Change) :
    ∃ more, (changes.foldl change m).names = m.names ++ more := by
  induction changes generalizing m with
  | nil => exact ⟨[], by rw [List.foldl_nil, List.append_nil]⟩
  | cons c changes ih =>
    obtain ⟨more, hmore⟩ := ih (m.change c)
    obtain ⟨added, hadded⟩ := m.exists_names_change c
    exact ⟨added ++ more, by rw [List.foldl_cons, hmore, hadded, List.append_assoc]⟩

end ImportMap

namespace Stimulus.Application

/-- The registrations of an application. -/
def registered (a : Application) : List String := a.controllers.map a.registrationLine

/-- A name that no quotation mark stands in is registered once if it is a controller, and else not
at all. -/
theorem Discovered.count_registered {a : Application} {names : List String} {block x : String}
    (ha : a.Discovered names block) (hnames : names.Nodup)
    (hx : ∀ c ∈ x.toList, isQuote c = false) :
    a.registered.count (a.registrationLine x) = if x ∈ a.controllers then 1 else 0 := by
  have hmem : a.registrationLine x ∈ a.registered ↔ x ∈ a.controllers := by
    constructor
    · intro h
      obtain ⟨y, hy, heq⟩ := List.mem_map.mp h
      exact a.registrationLine_inj (ha.isQuote_eq_false hy) hx heq ▸ hy
    · exact List.mem_map_of_mem
  split
  next hcontroller =>
    exact List.count_eq_one_of_mem (ha.nodup_registrationLines hnames) (hmem.mpr hcontroller)
  next hnot => exact List.count_eq_zero.mpr (mt hmem.mp hnot)

end Stimulus.Application

namespace Renderer

open Stimulus Text

variable {m : ImportMap} {block : String} {given : Option String} {analyzer : Option Analyzer}
  {r : Renderer}

/-- With nothing kept, the script is put together from the imports of the map as it stands, the
start, the processed block and the registrations. -/
theorem run_render_of_cold {a : Application} {statements : List String}
    (hr : r.kind = .stimulus a) (h : a.importLines m.entries = .ok statements) {s : Store}
    (hs : s.Cold) : ((r.render m).run s).1 = .ok (Script.wrap (Script.joinParts
      [joinLines statements,
        Script.joinParts [a.setup, a.process r.block, joinLines a.registered]])) := by
  have hscript := (Rendering.ensures_render ⟨r, m⟩ s (hs.holds _)).2
  rw [hscript, scriptText, contentText, importText, bodyText, surroundText, blockText, process, hr]
  simp only [h]
  rfl

/-- However its map changes once a renderer is made, the script registers what it imports with one
exception. The imports are generated unless a location is missing. One line registers each
controller that was discovered. Every controller of the map as it stands is imported; it is
registered, and once, exactly if the map had it when the renderer was made or the block registers
or imports it. And every controller that was found in the map is still there and imported. -/
theorem registrations_are_those_of_the_first_map (hm : m.Reachable)
    (hr : stimulus? m.names block given analyzer = .ok r) (changes : List ImportMap.Change) :
    ∃ a : Application, r.kind = .stimulus a ∧
      a.registered =
        a.controllers.map (fun x ↦ s!"{a.name}.register(\"{identifier x}\", {x});") ∧
      let later := changes.foldl ImportMap.change m
      ((∀ e ∈ later.entries, e.location ≠ none) →
        ∃ statements, a.importLines later.entries = .ok statements) ∧
      ∀ statements, a.importLines later.entries = .ok statements →
        (∀ s : Store, s.Cold → ((r.render later).run s).1 = .ok (Script.wrap (Script.joinParts
          [joinLines statements, Script.joinParts
            [s!"const {a.name} = Application.start();", a.process block,
              joinLines a.registered]]))) ∧
        (∀ x ∈ later.names, Script.isControllerName x = true →
          s!"import {x} from \"{x}\";" ∈ statements ∧
          a.registered.count s!"{a.name}.register(\"{identifier x}\", {x});" =
            if x ∈ m.names ∨ x ∈ a.blockControllers then 1 else 0) ∧
        ∀ x ∈ a.mapControllers, x ∈ later.names ∧ s!"import {x} from \"{x}\";" ∈ statements := by
  obtain ⟨a, -, ha, rfl⟩ := exists_discovered hr
  obtain ⟨more, hmore⟩ := m.exists_names_changes changes
  refine ⟨a, rfl, rfl, exists_importLines a, fun statements h ↦ ⟨fun s hs ↦
    run_render_of_cold rfl h hs, fun x hx hcontroller ↦ ⟨?_, ?_⟩, fun x hx ↦ ?_⟩⟩
  · exact controllerImport_mem_of_mem_names h hx hcontroller
  · refine (ha.count_registered hm.wellNamed.nodup
      (isQuote_eq_false_of_isControllerName hcontroller)).trans ?_
    simp only [Application.controllers, List.mem_append, ha.mapControllers_eq, List.mem_filter,
      hcontroller, and_true]
  · rw [ha.mapControllers_eq, List.mem_filter] at hx
    have hlater : x ∈ (changes.foldl ImportMap.change m).names := by
      rw [hmore]
      exact List.mem_append_left more hx.1
    exact ⟨hlater, controllerImport_mem_of_mem_names h hlater hx.2⟩

/-- A controller that is added once the renderer is made is imported and not registered. -/
theorem late_controller_is_not_registered :
    ∃ (m : ImportMap) (changes : List ImportMap.Change) (r : Renderer) (a : Application)
      (statements : List String), m.Reachable ∧ stimulus? m.names "run();" none none = .ok r ∧
      r.kind = .stimulus a ∧
      a.importLines (changes.foldl ImportMap.change m).entries = .ok statements ∧
      "LateController" ∈ (changes.foldl ImportMap.change m).names ∧
      "import LateController from \"LateController\";" ∈ statements ∧
      a.registered.count "application.register(\"late\", LateController);" = 0 ∧
      a.registered.count "application.register(\"hello\", HelloController);" = 1 := by
  let m : ImportMap := ({} : ImportMap).change
    (.add { name := "HelloController", location := some "/hello.js" })
  let changes : List ImportMap.Change :=
    [.add { name := "LateController", location := some "/late.js" }, .autoCategorize]
  have hm : m.Reachable := .change _ (.new _)
  have happ : Script.isIdentifier (nameOr "application" none) = true := by decide +kernel
  have hr := stimulus?_of_isIdentifier m.names "run();" none happ
  obtain ⟨a, hkind, -, hlocations, hscript⟩ :=
    registrations_are_those_of_the_first_map hm hr changes
  obtain ⟨statements, hstatements⟩ := hlocations (by decide +kernel)
  obtain ⟨-, hcontrollers, -⟩ := hscript statements hstatements
  have hlater : (changes.foldl ImportMap.change m).names =
      ["HelloController", "LateController"] := by decide +kernel
  have hblock : a.blockControllers = [] ∧ a.name = "application" := by
    obtain rfl := RendererKind.stimulus.inj hkind
    decide +kernel
  have hkeys : identifier "LateController" = "late" ∧ identifier "HelloController" = "hello" := by
    decide +kernel
  have hnames : m.names = ["HelloController"] := by decide +kernel
  have hlate := hcontrollers "LateController" (by simp [hlater]) (by decide +kernel)
  have hhello := hcontrollers "HelloController" (by simp [hlater]) (by decide +kernel)
  rw [hnames, hblock.1, hblock.2] at hlate hhello
  rw [hkeys.1] at hlate
  rw [hkeys.2] at hhello
  exact ⟨m, changes, _, a, statements, hm, hr, hkind, hstatements, by simp [hlater], hlate.1,
    hlate.2, hhello.2⟩

end Renderer

end ModuleScript
