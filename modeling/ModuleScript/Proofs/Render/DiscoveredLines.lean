import ModuleScript.Proofs.Render.Controllers
import ModuleScript.Proofs.Stimulus.ControllerKeys
import ModuleScript.Proofs.Stimulus.StatementPlaces

/-!
# Lines that are discovered

A line that registers a controller, or imports one by default, is found by discovery at its place,
unless the scan goes over it. It does so only from an earlier statement whose quotation is left open
on its line. What is found is a controller, and the filter drops the lines that register it.
-/

namespace ModuleScript.Renderer

open Stimulus Text

variable {m : ImportMap} {block : String} {given : Option String} {analyzer : Option Analyzer}
  {r : Renderer}

/-- From an application over a map and a block, every line that is a registration in full, but for
blanks and semicolons around it, is found at its place unless the scan for registrations goes over
the place. The scan does so only if an earlier registration leaves its key open at the end of its
line, and only if the key on the line itself starts with a comma. Otherwise, what the line registers
is a controller, if it has a key. A controller is registered by the script, and no line that
registers it is left in the block. In the same way, every line that is a default import of a
controller is found unless an earlier import leaves its specifier open, and otherwise what it
imports is a controller. -/
theorem whole_lines_are_discovered_unless_quotations_stay_open
    (hr : stimulus? m.names block given analyzer = .ok r) :
    ∃ a : Application, r.kind = .stimulus a ∧
      (∀ s : Store, s.Cold → ((r.body m).run s).1 = .ok (.text (Script.joinParts
        [s!"const {a.name} = Application.start();", r.process block,
          joinLines (a.controllers.map fun x ↦
            s!"{a.name}.register(\"{identifier x}\", {x});")]))) ∧
      (∀ line ∈ lines block, ∃ place, StatementAt block place line) ∧
      ∀ place line x, StatementAt block place line →
        (LineRegisters a line x →
          (FindsAt (registration a.name) block place x ↔
            ¬ (registration a.name).RunsOver block.toList place) ∧
          ((registration a.name).RunsOver block.toList place →
            LeftOpen (RegistrationOpening a.name.toList) block place ∧ CommaKey line.toList) ∧
          (¬ (registration a.name).RunsOver block.toList place → identifier x ≠ "" →
            x ∈ a.controllers) ∧
          (x ∈ a.controllers → a.handles line = true ∧
            ∀ kept ∈ lines (r.process block), ¬ LineRegisters a kept x)) ∧
        (LineNames defaultImport line x → Script.isControllerName x = true →
          (FindsAt defaultImport block place x ↔ ¬ defaultImport.RunsOver block.toList place) ∧
          (defaultImport.RunsOver block.toList place → LeftOpen ImportOpening block place) ∧
          (¬ defaultImport.RunsOver block.toList place → x ∈ a.controllers)) := by
  obtain ⟨a, happ, ha, rfl⟩ := exists_discovered hr
  refine ⟨a, rfl, fun s hs ↦ run_body_of_cold _ m hs,
    fun line hline ↦ mem_lines_iff_statementAt.mp hline,
    fun place line x hline ↦ ⟨fun hnames ↦ ?_, fun hnames hform ↦ ?_⟩⟩
  · have hfinds := findsAt_registration_iff happ hline hnames
    refine ⟨hfinds, leftOpen_of_runsOver_registration happ hline hnames, fun hnot hkey ↦ ?_,
      fun hx ↦ ⟨?_, fun kept hkept ↦ not_lineRegisters_of_mem_process happ hkept hx⟩⟩
    · exact ha.mem_controllers_of_namesAt (.inl (hfinds.mpr hnot)) hkey
    · obtain ⟨found, hfound, hgroup⟩ := hnames
      refine Application.handles_of_registration happ (lineFeed_notMem_of_mem_lines
        (mem_lines_iff_statementAt.mpr ⟨place, hline⟩)) hfound ?_
      rw [groupIn, hgroup, Option.any_some, List.contains_iff_mem]
      exact hx
  · have hfinds := findsAt_defaultImport_iff hline hnames
    refine ⟨hfinds, leftOpen_of_runsOver_defaultImport hline hnames, fun hnot ↦ ?_⟩
    have htext := (tells_defaultImport.of_lineNames hnames).2.1
    have hkey := identifier_ne_nil_of_isControllerName hform (htext.notMem (by decide +kernel))
    exact ha.mem_controllers_of_namesAt (.inr ⟨hfinds.mpr hnot, hform⟩) fun hempty ↦
      hkey (by rw [hempty]; rfl)

/-- A comment that ends within a quotation hides the import on the next line, but not the
registration on the one behind it. -/
theorem tabs_are_hidden_by_an_open_draft :
    ∃ (block : String) (r : Renderer), stimulus? [] block none none = .ok r ∧
      ∃ a : Application, r.kind = .stimulus a ∧
        (StatementAt block 28 "import TabsController from \"./tabs.js\";" ∧
          LineNames defaultImport "import TabsController from \"./tabs.js\";" "TabsController" ∧
          defaultImport.RunsOver block.toList 28 ∧ LeftOpen ImportOpening block 28 ∧
          "TabsController" ∉ a.controllers) ∧
        StatementAt block 68 "Stimulus.register(\"menu\", MenuController);" ∧
        "MenuController" ∈ a.controllers ∧
        a.handles "Stimulus.register(\"menu\", MenuController);" = true := by
  let block := "// import Draft from \"draft\n" ++ "import TabsController from \"./tabs.js\";\n" ++
    "Stimulus.register(\"menu\", MenuController);"
  have happ : Script.isIdentifier (nameOr "application" none) = true := by decide +kernel
  have hr := stimulus?_of_isIdentifier [] block none happ
  obtain ⟨a, hkind, -, -, hall⟩ :=
    whole_lines_are_discovered_unless_quotations_stay_open (m := {}) hr
  have htabs : StatementAt block 28 "import TabsController from \"./tabs.js\";" :=
    ⟨["// import Draft from \"draft"], ["Stimulus.register(\"menu\", MenuController);"],
      by decide +kernel, by decide +kernel⟩
  have hmenu : StatementAt block 68 "Stimulus.register(\"menu\", MenuController);" :=
    ⟨["// import Draft from \"draft", "import TabsController from \"./tabs.js\";"], [],
      by decide +kernel, by decide +kernel⟩
  have himport : LineNames defaultImport "import TabsController from \"./tabs.js\";"
      "TabsController" := Option.bind_eq_some_iff.mp (by decide +kernel)
  have hhidden : (28, "TabsController") ∉ namedPlaces defaultImport block := by decide +kernel
  have ha : a.controllers = ["MenuController"] ∧
      (68, "MenuController") ∈ namedPlaces (registration a.name) block ∧
      (matchLine? (registration a.name)
        (bareStatement "Stimulus.register(\"menu\", MenuController);")).bind (·.group? 1) =
          some "MenuController" := by
    obtain rfl := RendererKind.stimulus.inj hkind
    decide +kernel
  obtain ⟨hcontrollers, hfound, hregisters⟩ := ha
  obtain ⟨hfinds, hopen, -⟩ :=
    (hall 28 _ "TabsController" htabs).2 himport (by decide +kernel)
  have hover : defaultImport.RunsOver block.toList 28 := by
    by_contra hnot
    exact hhidden (mem_namedPlaces_iff.mpr (hfinds.mpr hnot))
  obtain ⟨hfinds', -, hdiscovered, hdropped⟩ :=
    (hall 68 _ "MenuController" hmenu).1 (Option.bind_eq_some_iff.mp hregisters)
  have hcontroller := hdiscovered (hfinds'.mp (mem_namedPlaces_iff.mp hfound)) (by decide +kernel)
  exact ⟨block, _, hr, a, hkind, ⟨htabs, himport, hover, hopen hover, by simp [hcontrollers]⟩,
    hmenu, hcontroller, (hdropped hcontroller).1⟩

end ModuleScript.Renderer
