import ModuleScript.Proofs.Render.Controllers
import ModuleScript.Proofs.Stimulus.EmittedLines

/-!
# Lines that are written already

A block may already hold the lines that the script of an application is given: the start, the
imports and the registrations. They are dropped from the block, so that the script has them once.
Registrations with an application whose name starts with a dollar sign are the exception, as no
word starts there; they are kept beside those that are generated.
-/

namespace ModuleScript.Renderer

open Stimulus Text

variable {m : ImportMap} {block : String} {given : Option String} {analyzer : Option Analyzer}
  {r : Renderer}

/-- From an application, the filter drops the start as it is generated, and the import of every
controller without line feeds. It drops the registration of the controller if and only if the name
of the application starts with no dollar sign, and the form of registrations finds the controller
on it if the name starts with none or ends with one and the name of Stimulus. So from caches with
nothing in them, the script has its start and no such import in its processed block, and a
registration from the block beside the generated one exactly for the names with a dollar sign. -/
theorem written_lines_are_dropped_up_to_dollar_names
    (hr : stimulus? m.names block given analyzer = .ok r) :
    ∃ a : Application, r.kind = .stimulus a ∧ a.setup = s!"const {a.name} = Application.start();" ∧
      (∀ x, a.registrationLine x = s!"{a.name}.register(\"{identifier x}\", {x});") ∧
      (∀ s : Store, s.Cold → ((r.body m).run s).1 = .ok (.text (Script.joinParts
        [a.setup, r.process block, joinLines (a.controllers.map a.registrationLine)]))) ∧
      a.handles a.setup = true ∧
      (∀ line ∈ lines (r.process block), trim line ≠ a.setup) ∧
      ∀ x ∈ a.controllers, '\n' ∉ x.toList →
        a.handles s!"import {x} from \"{x}\";" = true ∧
        (∀ line ∈ lines (r.process block), trim line ≠ s!"import {x} from \"{x}\";") ∧
        (a.handles (a.registrationLine x) = true ↔ a.name.toList.head? ≠ some '$') ∧
        ((∃ place, (place, x) ∈ namedPlaces (registration a.name) (a.registrationLine x)) ↔
          a.name.toList.head? ≠ some '$' ∨ "$Stimulus".toList <:+ a.name.toList) ∧
        ((∃ line ∈ lines (r.process block), trim line = a.registrationLine x) ↔
          a.name.toList.head? = some '$' ∧
            ∃ line ∈ lines block, trim line = a.registrationLine x) := by
  obtain ⟨a, happ, ha, rfl⟩ := exists_discovered hr
  refine ⟨a, rfl, rfl, fun x ↦ rfl, fun s hs ↦ run_body_of_cold _ m hs,
    a.handles_of_padded_setup (.refl _), fun line hline ↦ Application.trim_ne_setup hline,
    fun x hx hline ↦ ?_⟩
  have hregistrable := ha.registrable hx hline
  refine ⟨Application.handles_of_padded_controllerImport hx hregistrable.controller (.refl _),
    fun line hline ↦ Application.trim_ne_controllerImport hx hregistrable.controller hline, ?_, ?_,
    Application.exists_trim_eq_registrationLine_iff happ hregistrable hx⟩
  · rw [Application.handles_of_padded_registrationLine_iff happ hregistrable hx (.refl _),
      Application.exists_sought_nil_iff happ]
  · rw [Application.exists_mem_namedPlaces_iff happ hregistrable,
      Application.exists_sought_iff happ]

/-- A registration with `$app` is kept beside the generated one; the start and the import in the
block are dropped. -/
theorem dollar_app_registers_hello_twice :
    ∃ (m : ImportMap) (block : String) (r : Renderer),
      stimulus? m.names block (some "$app") none = .ok r ∧
      ∃ a : Application, r.kind = .stimulus a ∧ a.controllers = ["HelloController"] ∧
        a.handles "const $app = Application.start();" = true ∧
        a.handles "import HelloController from \"HelloController\";" = true ∧
        a.handles "$app.register(\"hello\", HelloController);" = false ∧
        (¬ ∃ place, (place, "HelloController") ∈
          namedPlaces (registration a.name) "$app.register(\"hello\", HelloController);") ∧
        ∃ line ∈ lines (r.process block),
          trim line = "$app.register(\"hello\", HelloController);" := by
  let m : ImportMap := ({} : ImportMap).change
    (.add { name := "HelloController", location := some "/hello.js" })
  let block := "const $app = Application.start();\n" ++
    " $app.register(\"hello\", HelloController);\nrun();"
  have happ : Script.isIdentifier (nameOr "application" (some "$app")) = true := by decide +kernel
  have hr := stimulus?_of_isIdentifier m.names block none happ
  obtain ⟨a, hkind, -, -, -, hsetup, -, hall⟩ := written_lines_are_dropped_up_to_dollar_names
    (m := m) hr
  have ha : a.controllers = ["HelloController"] ∧ a.name = "$app" ∧
      a.setup = "const $app = Application.start();" ∧
      a.registrationLine "HelloController" = "$app.register(\"hello\", HelloController);" := by
    obtain rfl := RendererKind.stimulus.inj hkind
    decide +kernel
  obtain ⟨hcontrollers, hname, hstart, hline⟩ := ha
  obtain ⟨himport, -, hregistration, hfound, hkept⟩ :=
    hall "HelloController" (by simp [hcontrollers]) (by decide)
  rw [hline, hname] at hregistration hfound hkept
  rw [hstart] at hsetup
  have hhead : "$app".toList.head? = some '$' := by decide
  have hsuffix : ¬ "$Stimulus".toList <:+ "$app".toList := by decide
  refine ⟨m, block, _, hr, a, hkind, hcontrollers, hsetup, himport, ?_, ?_, ?_⟩
  · rw [← Bool.not_eq_true, hregistration, not_not]
    exact hhead
  · rw [hname, hfound, not_or, not_not]
    exact ⟨hhead, hsuffix⟩
  · exact hkept.mpr ⟨hhead, " $app.register(\"hello\", HelloController);", by decide +kernel,
      by decide +kernel⟩

end ModuleScript.Renderer
