import ModuleScript.Proofs.Render.Controllers
import ModuleScript.Proofs.Stimulus.ControllerKeys
import ModuleScript.Proofs.Stimulus.Mentions

/-!
# The order of controllers

The controllers of a script are those of the map, in its order, and then those that the block names
and the map does not have, in the order in which the block names them first.
-/

namespace ModuleScript.Renderer

open Stimulus Text

variable {m : ImportMap} {block : String} {given : Option String} {analyzer : Option Analyzer}
  {r : Renderer}

/-- From an application over a map, however it was built, the controllers are the names of the map
that have the form of controllers, in its order, and then further ones of the block, and none comes
twice. Those of the block are the names that it registers, or imports by default under the form of a
controller, unless the map has them or they have no key. Each comes behind those that the block
names at an earlier place first. Of all names of the block, just the word for a controller has no
key. -/
theorem controllers_come_in_order_of_appearance (hm : m.Reachable)
    (hr : stimulus? m.names block given analyzer = .ok r) :
    ∃ a : Application, r.kind = .stimulus a ∧
      a.controllers = m.names.filter Script.isControllerName ++ a.blockControllers ∧
      a.controllers.Nodup ∧
      (∀ x, x ∈ a.blockControllers ↔ (∃ place, NamesAt a.name block place x) ∧
        x ∉ m.names.filter Script.isControllerName ∧ identifier x ≠ "") ∧
      (a.blockControllers.Pairwise fun x y ↦
        ∃ p q, FirstNamedAt a.name block p x ∧ FirstNamedAt a.name block q y ∧ p < q) ∧
      ∀ place x, NamesAt a.name block place x → (identifier x = "" ↔ x = "Controller") := by
  obtain ⟨a, happ, ha, rfl⟩ := exists_discovered hr
  have hblock : a.blockControllers =
      discoverControllers (m.names.filter Script.isControllerName) a.name block := by rw [ha]; rfl
  refine ⟨a, rfl, ?_, ha.nodup_controllers hm.wellNamed.nodup, fun x ↦ ?_, ?_, fun place x hx ↦ ?_⟩
  · rw [Application.controllers, ha.mapControllers_eq]
  · rw [ha.mem_blockControllers, ha.mapControllers_eq]
  · rw [hblock]
    exact pairwise_discoverControllers happ _ block
  · exact identifier_eq_empty_iff
      (identifierText_of_mem_controllerPlaces (mem_controllerPlaces_iff.mpr hx))

/-- A block that registers one controller, imports another and then registers it too, and repeats
the one of the map; what it calls just by the word for a controller has no key. -/
theorem hello_zed_and_alpha_come_in_order :
    ∃ (m : ImportMap) (block : String) (r : Renderer), m.Reachable ∧
      stimulus? m.names block none none = .ok r ∧
      ∃ a : Application, r.kind = .stimulus a ∧
        a.controllers = ["HelloController", "Zed", "AlphaController"] ∧ a.controllers.Nodup ∧
        (∃ p q, FirstNamedAt a.name block p "Zed" ∧ FirstNamedAt a.name block q "AlphaController" ∧
          p < q) ∧
        ((∃ place, NamesAt a.name block place "Controller") ∧ identifier "Controller" = "") := by
  let m : ImportMap := ({} : ImportMap).change
    (.add { name := "HelloController", location := some "/hello.js" })
  let block := "import HelloController from './hello.js';\nStimulus.register('z', Zed);\n" ++
    "import AlphaController from './alpha.js'; application.register('a', AlphaController);\n" ++
    "Stimulus.register('c', Controller); Stimulus.register('y', Zed);"
  have hm : m.Reachable := .change _ (.new _)
  have happ : Script.isIdentifier (nameOr "application" none) = true := by decide +kernel
  have hr := stimulus?_of_isIdentifier m.names block none happ
  obtain ⟨a, hkind, -, hnodup, -, horder, hkey⟩ := controllers_come_in_order_of_appearance hm hr
  have ha : a.mapControllers = ["HelloController"] ∧
      a.blockControllers = ["Zed", "AlphaController"] ∧
      (157, "Controller") ∈ namedPlaces (registration a.name) block := by
    obtain rfl := RendererKind.stimulus.inj hkind
    decide +kernel
  obtain ⟨hmap, hfound, hplace⟩ := ha
  have hcontrollers : a.controllers = ["HelloController", "Zed", "AlphaController"] := by
    rw [Application.controllers, hmap, hfound]
    rfl
  rw [hfound] at horder
  have hnamed : NamesAt a.name block 157 "Controller" := .inl (mem_namedPlaces_iff.mp hplace)
  exact ⟨m, block, _, hm, hr, a, hkind, hcontrollers, hnodup,
    (List.pairwise_cons.mp horder).1 _ (List.mem_singleton_self _),
    ⟨_, hnamed⟩, (hkey _ _ hnamed).mpr rfl⟩

end ModuleScript.Renderer
