import ModuleScript.Proofs.Render.Controllers
import ModuleScript.Proofs.Stimulus.IdentifierPieces
import ModuleScript.Proofs.Stimulus.Mentions

/-!
# Keys of registrations

Controllers are told apart by their names, but registered under their keys. Controllers under the
form of a controller have different keys. A name of another form that the block registers may share
its key with one of them, or with another such name, which then agrees with it up to case.
-/

namespace ModuleScript

open Stimulus Text

namespace Stimulus.Application.Discovered

variable {a : Application} {names : List String} {block x y : String}

/-- A controller without the form of one is registered by the block. -/
theorem exists_findsAt_registration (h : a.Discovered names block) (hx : x ∈ a.controllers)
    (hform : Script.isControllerName x = false) :
    ∃ place, FindsAt (registration a.name) block place x := by
  rcases List.mem_append.mp hx with hx | hx
  · rw [h.mapControllers_eq, List.mem_filter, hform] at hx
    exact absurd hx.2 Bool.false_ne_true
  · obtain ⟨⟨place, hfound | ⟨-, hshaped⟩⟩, -⟩ := h.mem_blockControllers.mp hx
    · exact ⟨place, hfound⟩
    · rw [hform] at hshaped
      exact absurd hshaped Bool.false_ne_true

/-- No controller has a hyphen in its name. -/
theorem hyphen_notMem (h : a.Discovered names block) (hx : x ∈ a.controllers) :
    '-' ∉ x.toList := by
  by_cases hform : Script.isControllerName x = true
  · exact (ascii_of_isControllerName hform).2
  · obtain ⟨place, hplace⟩ := h.exists_findsAt_registration hx (Bool.not_eq_true _ ▸ hform)
    have hnamed : NamesAt a.name block place x := .inl hplace
    have htext := identifierText_of_mem_controllerPlaces (mem_controllerPlaces_iff.mpr hnamed)
    exact htext.notMem (by decide +kernel)

/-- Controllers under the form of one have different keys. -/
theorem nodup_keys_of_shaped (h : a.Discovered names block) (hnames : names.Nodup) :
    ((a.controllers.filter Script.isControllerName).map identifier).Nodup := by
  refine List.Nodup.map_on ?_ ((h.nodup_controllers hnames).filter _)
  intro x hx y hy heq
  exact eq_of_identifier_eq (List.mem_filter.mp hx).2 (List.mem_filter.mp hy).2 heq

end Stimulus.Application.Discovered

namespace Renderer

variable {m : ImportMap} {block : String} {given : Option String} {analyzer : Option Analyzer}
  {r : Renderer}

/-- From an application over a map, however it was built, every controller is registered once, under
its key. The keys of the controllers under the form of one are pairwise different. Where two
controllers share a key, the block registers one of them, which has not that form, and without the
word for a controller their names agree up to case. ASCII names share a key exactly if without that
word they agree up to the case of the first letter. -/
theorem only_names_alike_share_a_key (hm : m.Reachable)
    (hr : stimulus? m.names block given analyzer = .ok r) :
    ∃ a : Application, r.kind = .stimulus a ∧ a.controllers.Nodup ∧
      a.registrations = joinLines (a.controllers.map fun x ↦
        s!"{a.name}.register(\"{identifier x}\", {x});") ∧
      ((a.controllers.filter Script.isControllerName).map identifier).Nodup ∧
      (∀ x ∈ a.controllers, ∀ y ∈ a.controllers, x ≠ y → identifier x = identifier y →
        (∃ z, (z = x ∨ z = y) ∧ Script.isControllerName z = false ∧
          ∃ place, FindsAt (registration a.name) block place z) ∧
        foldCase (dropSuffix x.toList) = foldCase (dropSuffix y.toList)) ∧
      ∀ x ∈ a.controllers, ∀ y ∈ a.controllers, Ascii x.toList → Ascii y.toList →
        (identifier x = identifier y ↔ stem x = stem y) := by
  obtain ⟨a, -, ha, rfl⟩ := exists_discovered hr
  have hnames : m.names.Nodup := hm.wellNamed.nodup
  refine ⟨a, rfl, ha.nodup_controllers hnames, rfl, ha.nodup_keys_of_shaped hnames,
    fun x hx y hy hne hkey ↦ ⟨?_, ?_⟩, fun x hx y hy hax hay ↦ ?_⟩
  · by_cases hshaped : Script.isControllerName x = true
    · have hother : Script.isControllerName y = false :=
        Bool.eq_false_iff.mpr fun hy ↦ hne (eq_of_identifier_eq hshaped hy hkey)
      exact ⟨y, .inr rfl, hother, ha.exists_findsAt_registration hy hother⟩
    · rw [Bool.not_eq_true] at hshaped
      exact ⟨x, .inl rfl, hshaped, ha.exists_findsAt_registration hx hshaped⟩
  · exact foldCase_eq_of_identifier_eq (ha.hyphen_notMem hx) (ha.hyphen_notMem hy) hkey
  · exact identifier_eq_iff hax hay (ha.hyphen_notMem hx) (ha.hyphen_notMem hy)

/-- Two controllers of the map have different keys. A class that the block registers shares that of
one of them, and two names that differ in the case of a letter beyond ASCII share theirs. -/
theorem foo_and_bar_are_told_apart :
    ∃ (m : ImportMap) (block : String) (r : Renderer), m.Reachable ∧
      stimulus? m.names block none none = .ok r ∧
      ∃ a : Application, r.kind = .stimulus a ∧
        a.controllers = ["FooController", "BarController", "Foo", "caf\u00c9", "caf\u00e9"] ∧
        (a.controllers.filter Script.isControllerName).map identifier = ["foo", "bar"] ∧
        ((a.controllers.filter Script.isControllerName).map identifier).Nodup ∧
        (identifier "FooController" = identifier "Foo" ∧ stem "FooController" = stem "Foo") ∧
        identifier "caf\u00c9" = identifier "caf\u00e9" ∧
        foldCase "caf\u00c9".toList = foldCase "caf\u00e9".toList := by
  let m : ImportMap := (({} : ImportMap).change
    (.add { name := "FooController", location := some "/foo.js" })).change
    (.add { name := "BarController", location := some "/bar.js" })
  let block := "class Foo extends FooController {}\nStimulus.register(\"other\", Foo);\n" ++
    "Stimulus.register(\"one\", caf\u00c9); Stimulus.register(\"two\", caf\u00e9);"
  have hm : m.Reachable := .change _ (.change _ (.new _))
  have happ : Script.isIdentifier (nameOr "application" none) = true := by decide +kernel
  have hr := stimulus?_of_isIdentifier m.names block none happ
  obtain ⟨a, hkind, -, -, hnodup, hshared, hstems⟩ := only_names_alike_share_a_key hm hr
  have hcontrollers :
      a.controllers = ["FooController", "BarController", "Foo", "caf\u00c9", "caf\u00e9"] := by
    obtain rfl := RendererKind.stimulus.inj hkind
    decide +kernel
  have hkeys : (a.controllers.filter Script.isControllerName).map identifier = ["foo", "bar"] := by
    rw [hcontrollers]
    decide +kernel
  rw [hcontrollers] at hshared hstems
  have hfoo : identifier "FooController" = identifier "Foo" := by decide +kernel
  have hcafe : identifier "caf\u00c9" = identifier "caf\u00e9" := by decide +kernel
  have hstem := (hstems "FooController" (by simp) "Foo" (by simp) (by decide) (by decide)).mp hfoo
  have hfold := (hshared "caf\u00c9" (by simp) "caf\u00e9" (by simp) (by decide) hcafe).2
  exact ⟨m, block, _, hm, hr, a, hkind, hcontrollers, hkeys, hnodup, ⟨hfoo, hstem⟩, hcafe, hfold⟩

/-- The controller of the map and the class that the block makes of it are registered under one
key. -/
theorem foo_is_registered_over_foo :
    ∃ (m : ImportMap) (block : String) (r : Renderer), m.Reachable ∧
      stimulus? m.names block none none = .ok r ∧
      ∃ a : Application, r.kind = .stimulus a ∧
        a.registrations = "application.register(\"foo\", FooController);\n" ++
          "application.register(\"foo\", Foo);" ∧
        ¬ (a.controllers.map identifier).Nodup := by
  let m : ImportMap := ({} : ImportMap).change
    (.add { name := "FooController", location := some "/foo.js" })
  let block := "class Foo extends FooController {}\nStimulus.register(\"other\", Foo);"
  let a : Application := .discover "application" m.names block
  have happ : Script.isIdentifier (nameOr "application" none) = true := by decide +kernel
  have hcontrollers : a.controllers = ["FooController", "Foo"] := by decide +kernel
  refine ⟨m, block, _, .change _ (.new _), stimulus?_of_isIdentifier m.names block none happ,
    a, rfl, ?_, ?_⟩
  · rw [Application.registrations, hcontrollers]
    decide +kernel
  · rw [hcontrollers]
    decide +kernel

end Renderer

end ModuleScript
