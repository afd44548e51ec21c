import ModuleScript.Proofs.ImportMap.Reachable
import ModuleScript.Proofs.Render.Served
import ModuleScript.Proofs.Stimulus.Mentions
import ModuleScript.Proofs.Stimulus.Processed

/-!
# The controllers of a script

A script of a Stimulus application registers each of its controllers once, and what it keeps of
the block registers none of them again. Every controller stays bound: its import is generated, or
the line of the block that binds it is kept.
-/

namespace ModuleScript.Renderer

open Stimulus Text

variable {m : ImportMap} {names : List String} {block : String} {given : Option String}
  {analyzer : Option Analyzer} {r : Renderer}

/-- A renderer of an application that is made has an accepted name and what is discovered. -/
theorem exists_discovered (h : stimulus? names block given analyzer = .ok r) :
    ∃ a : Application, Script.isIdentifier a.name = true ∧ a.Discovered names block ∧
      r = { kind := .stimulus a, block, analyzer } := by
  obtain ⟨name, hname, rfl⟩ := stimulus?_eq_ok h
  exact ⟨.discover name names block, hname, rfl, rfl⟩

/-- With nothing kept, the script without its imports is put together from its parts. -/
theorem run_body_of_cold (r : Renderer) (m : ImportMap) {s : Store} (hs : s.Cold) :
    ((r.body m).run s).1 = .ok (.text r.bodyText) := by
  let ok : Store.Condition := fun name key kept ↦ name = Partition.processedBlock.name →
    key = Digest.contentKey (r.blockParts m) → kept = .data (.text r.blockText)
  have hprocessed : Ensures (Store.Holds ok) (r.processed m) (· = .ok (.text r.blockText)) := by
    refine Rendering.ensures_keptText (fun kept hkept ↦ ?_) (.pure ⟨?_, ?_⟩)
    · rw [hkept rfl rfl]
      rfl
    · rintro t ⟨⟩ - -
      rfl
    · rintro fault ⟨⟩
  have hbody : Ensures (Store.Holds ok) (r.body m) (· = .ok (.text r.bodyText)) := by
    rw [body]
    refine hprocessed.bind (fun processed h ↦ Rendering.ensures_ofResult ?_) (by simp)
    obtain rfl := Except.ok.inj h
    exact r.surround_text r.blockText
  exact (hbody s (hs.holds ok)).2

/-! ### Registrations -/

/-- A line that registers a controller, with nothing but blanks and semicolons beside it. -/
def LineRegisters (a : Application) (line controller : String) : Prop :=
  ∃ found, matchLine? (registration a.name) (bareStatement line) = some found ∧
    found.group? 1 = some controller

/-- No processed line registers one of the controllers. -/
theorem not_lineRegisters_of_mem_process {a : Application} {line x : String}
    (happ : Script.isIdentifier a.name = true) (hline : line ∈ lines (a.process block))
    (hx : x ∈ a.controllers) : ¬ LineRegisters a line x := by
  rintro ⟨found, hfound, hgroup⟩
  have hnone := Application.groupIn_registration_of_mem_process happ hline hfound
  rw [groupIn, hgroup, Option.any_some, List.contains_iff_mem.mpr hx] at hnone
  exact Bool.false_ne_true hnone.symm

/-- From an application over a map, however it was built, the controllers are the names of the map
that have the form of controllers and then those that the block names beside them, and none is
repeated. From caches with nothing in them, the script without its imports is the start, the
processed block and one registration of each controller in order, under its key. No line of the
processed block registers one of the controllers, and none starts an application. -/
theorem body_registers_controllers_once (hm : m.Reachable)
    (hr : stimulus? m.names block given analyzer = .ok r) :
    ∃ a : Application, r.kind = .stimulus a ∧ a.name = nameOr "application" given ∧
      a.controllers = m.names.filter Script.isControllerName ++ a.blockControllers ∧
      (∀ x, x ∈ a.blockControllers ↔ (∃ place, NamesAt a.name block place x) ∧
        x ∉ m.names.filter Script.isControllerName ∧ identifier x ≠ "") ∧
      a.controllers.Nodup ∧
      (∀ s : Store, s.Cold → ((r.body m).run s).1 = .ok (.text (Script.joinParts
        [s!"const {a.name} = Application.start();", r.process block,
          joinLines (a.controllers.map fun x ↦
            s!"{a.name}.register(\"{identifier x}\", {x});")]))) ∧
      (a.controllers.map fun x ↦ s!"{a.name}.register(\"{identifier x}\", {x});").Nodup ∧
      ∀ line ∈ lines (r.process block),
        (∀ controller ∈ a.controllers, ¬ LineRegisters a line controller) ∧
        matchLine? (bootstrapLine a.name) line = none := by
  obtain ⟨happ, rfl⟩ := of_stimulus? hr
  let a : Application := .discover (nameOr "application" given) m.names block
  have ha : a.Discovered m.names block := rfl
  have hnodup : m.names.Nodup := hm.wellNamed.nodup
  refine ⟨a, rfl, rfl, ?_, fun x ↦ ?_, ha.nodup_controllers hnodup,
    fun s hs ↦ run_body_of_cold _ m hs, ha.nodup_registrationLines hnodup, fun line hline ↦
      ⟨fun controller hcontroller ↦ not_lineRegisters_of_mem_process happ hline hcontroller, ?_⟩⟩
  · rw [Application.controllers, ha.mapControllers_eq]
  · rw [ha.mem_blockControllers, ha.mapControllers_eq]
  · exact Application.matchLine?_bootstrap_of_mem_process happ hline

/-- A block that imports and registers a controller of its own beside one of the map. -/
theorem body_registers_hello_and_clock_once :
    ∃ (m : ImportMap) (block : String) (r : Renderer), m.Reachable ∧
      stimulus? m.names block none none = .ok r ∧
      ∃ a : Application, r.kind = .stimulus a ∧
        a.controllers = ["HelloController", "ClockController"] ∧ a.controllers.Nodup ∧
        r.process block = "tick();" ∧
        ((r.body m).run {}).1 = .ok (.text ("const application = Application.start();\n\n" ++
          "tick();\n\napplication.register(\"hello\", HelloController);\n" ++
          "application.register(\"clock\", ClockController);")) ∧
        ∀ line ∈ lines (r.process block), ∀ controller ∈ a.controllers,
          ¬ LineRegisters a line controller := by
  let m : ImportMap := ({} : ImportMap).change
    (.add { name := "HelloController", location := some "/hello.js" })
  let block := "import ClockController from \"ClockController\";\n" ++
    " application.register('clock', ClockController); \ntick();\n"
  have hm : m.Reachable := .change _ (.new _)
  have happ : Script.isIdentifier (nameOr "application" none) = true := by decide +kernel
  obtain ⟨r, hr⟩ : ∃ r, stimulus? m.names block none none = .ok r :=
    ⟨_, stimulus?_of_isIdentifier m.names block none happ⟩
  obtain ⟨a, hkind, hname, -, -, hnodup, hbody, -, hlines⟩ := body_registers_controllers_once hm hr
  obtain ⟨hcontrollers, hprocess⟩ : a.controllers = ["HelloController", "ClockController"] ∧
      r.process block = "tick();" := by
    obtain ⟨-, rfl⟩ := of_stimulus? hr
    obtain rfl := RendererKind.stimulus.inj hkind
    decide +kernel
  refine ⟨m, block, r, hm, hr, a, hkind, hcontrollers, hnodup, hprocess, ?_,
    fun line hline ↦ (hlines line hline).1⟩
  rw [hbody {} Store.cold_empty, hprocess, hcontrollers, hname]
  exact congrArg (fun text ↦ Except.ok (Value.text text)) (by decide +kernel)

/-! ### Imports -/

/-- An entry whose location is there is one that loads the package or not. -/
private theorem exists_isCoreEntry {e : Entry} (h : e.location ≠ none) :
    ∃ isCore, isCoreEntry e = .ok isCore := by
  rw [isCoreEntry]
  split
  · exact ⟨_, rfl⟩
  · split
    · exact ⟨_, rfl⟩
    · cases hlocation : e.location with
      | none => exact absurd hlocation h
      | some location => exact ⟨_, rfl⟩

private theorem exists_otherEntries {entries : List Entry} (h : ∀ e ∈ entries, e.location ≠ none) :
    ∃ others, otherEntries entries = .ok others := by
  induction entries with
  | nil => exact ⟨[], rfl⟩
  | cons e rest ih =>
    obtain ⟨isCore, hcore⟩ := exists_isCoreEntry (h e List.mem_cons_self)
    obtain ⟨others, hothers⟩ := ih fun e he ↦ h e (List.mem_cons_of_mem _ he)
    rw [otherEntries, hcore, hothers]
    exact ⟨_, rfl⟩

/-- Entries with the name of a controller never load the package. -/
private theorem isCoreEntry_of_isControllerName {e : Entry}
    (h : Script.isControllerName e.name = true) : isCoreEntry e = .ok false := by
  rw [isCoreEntry, if_pos h]

/-- The imports are generated unless a location is missing. -/
theorem exists_importLines (a : Application) {entries : List Entry}
    (h : ∀ e ∈ entries, e.location ≠ none) :
    ∃ statements, a.importLines entries = .ok statements := by
  obtain ⟨others, hothers⟩ := exists_otherEntries h
  exact ⟨_, Application.importLines_eq_ok_iff.mpr ⟨others, hothers, rfl⟩⟩

/-- An entry with the name of a controller is imported. -/
theorem controllerImport_mem_of_mem_names {a : Application} {statements : List String}
    (h : a.importLines m.entries = .ok statements) {x : String} (hx : x ∈ m.names)
    (hcontroller : Script.isControllerName x = true) : controllerImport x ∈ statements := by
  obtain ⟨others, hothers, rfl⟩ := Application.importLines_eq_ok_iff.mp h
  obtain ⟨e, he, rfl⟩ := List.mem_map.mp hx
  refine List.mem_cons_of_mem _ (List.mem_append_left _ (List.mem_map.mpr ⟨e, ?_, ?_⟩))
  · exact (mem_otherEntries_iff hothers).mpr ⟨he, isCoreEntry_of_isControllerName hcontroller⟩
  · exact Script.importStatement_of_isControllerName hcontroller

/-- The import of a controller of the map or of one that is imported anew is generated. -/
theorem controllerImport_mem_importLines {a : Application} {statements : List String}
    (ha : a.Discovered m.names block) (h : a.importLines m.entries = .ok statements) {x : String}
    (hx : x ∈ a.mapControllers ++ a.reimported) : controllerImport x ∈ statements := by
  rcases List.mem_append.mp hx with hx | hx
  · rw [ha.mapControllers_eq] at hx
    obtain ⟨hname, hcontroller⟩ := List.mem_filter.mp hx
    exact controllerImport_mem_of_mem_names h hname hcontroller
  · obtain ⟨others, -, rfl⟩ := Application.importLines_eq_ok_iff.mp h
    exact List.mem_cons_of_mem _ (List.mem_append_right _ (List.mem_map_of_mem hx))

/-- With nothing kept, the imports are the generated statements. -/
theorem run_imports_of_cold {a : Application} {statements : List String}
    (hr : r.kind = .stimulus a) (h : a.importLines m.entries = .ok statements) {s : Store}
    (hs : s.Cold) : ((r.imports m).run s).1 = .ok (.text (joinLines statements)) := by
  have himports := (Rendering.ensures_imports ⟨r, m⟩ s (hs.holds _)).2
  rw [himports, Rendering.importText, importText, hr]
  simp only [h]
  rfl

/-- From an application over a map and from caches with nothing in them, the imports are generated
unless a location is missing. They import every controller of the map and every controller of
the block that is imported anew, and no line of the processed block imports one of these from
elsewhere than the package. A controller of the block that is not imported anew keeps every line
that imports it. -/
theorem controllers_stay_bound (hr : stimulus? m.names block given analyzer = .ok r) :
    ∃ a : Application, r.kind = .stimulus a ∧
      ((∀ e ∈ m.entries, e.location ≠ none) →
        ∃ statements, a.importLines m.entries = .ok statements) ∧
      (∀ statements, a.importLines m.entries = .ok statements →
        (∀ s : Store, s.Cold →
          ((r.imports m).run s).1 = .ok (.text (joinLines statements))) ∧
        ∀ x ∈ a.mapControllers ++ a.reimported, s!"import {x} from \"{x}\";" ∈ statements) ∧
      (∀ x ∈ a.mapControllers ++ a.reimported, ∀ line ∈ lines (r.process block),
        ∀ source, LineImports line x source → source = coreModule) ∧
      ∀ x ∈ a.blockControllers, x ∉ a.reimported → ∀ line ∈ lines block,
        ∀ source, LineImports line x source →
          ∃ kept ∈ lines (r.process block), trim kept = trim line ∧
            LineImports kept x source := by
  obtain ⟨a, -, ha, rfl⟩ := exists_discovered hr
  refine ⟨a, rfl, exists_importLines a, fun statements h ↦ ⟨fun s hs ↦
    run_imports_of_cold rfl h hs, fun x hx ↦ controllerImport_mem_importLines ha h hx⟩,
    fun x hx line hline source himports ↦ ?_, fun x hx hnew line hline source himports ↦ ?_⟩
  · have hsource := Application.source_of_mem_process hline (lineImports_iff.mp himports)
      (by rwa [String.ofList_toList])
    rwa [String.ofList_toList] at hsource
  · have hline' := lineImports_iff.mp himports
    -- a controller as the specifier would have the import written anew
    have hsource : String.ofList source.toList ∉ a.controllers := fun hsource ↦
      hnew (ha.mem_reimported.mpr ⟨hx, line, hline, source.toList, hline', hsource⟩)
    have hbinding : String.ofList x.toList ∉ a.mapControllers ++ a.reimported := by
      rw [String.ofList_toList, List.mem_append, not_or]
      exact ⟨ha.fresh_blockControllers.notKnown x hx, hnew⟩
    obtain ⟨kept, hkept, htrim⟩ :=
      Application.exists_mem_process_of_imports hline hline' hsource hbinding
    exact ⟨kept, hkept, htrim, himports.of_trim_eq htrim.symm⟩

/-- A block with an import that is dropped, one that is written anew and one that is kept. -/
theorem hello_clock_and_menu_stay_bound :
    ∃ (m : ImportMap) (block : String) (r : Renderer),
      stimulus? m.names block none none = .ok r ∧
      ∃ a : Application, r.kind = .stimulus a ∧ a.mapControllers = ["HelloController"] ∧
        a.reimported = ["ClockController"] ∧
        (∃ statements, a.importLines m.entries = .ok statements ∧
          "import HelloController from \"HelloController\";" ∈ statements ∧
          "import ClockController from \"ClockController\";" ∈ statements) ∧
        ∃ kept ∈ lines (r.process block), LineImports kept "MenuController" "./menu.js" := by
  let m : ImportMap := ({} : ImportMap).change
    (.add { name := "HelloController", location := some "/hello.js" })
  let block := "import HelloController from './old.js';\n" ++
    "import ClockController from 'HelloController';\n import MenuController from './menu.js' "
  have happ : Script.isIdentifier (nameOr "application" none) = true := by decide +kernel
  have hr := stimulus?_of_isIdentifier m.names block none happ
  obtain ⟨a, hkind, hlocations, himports, -, hkept⟩ := controllers_stay_bound hr
  have ha : a.mapControllers = ["HelloController"] ∧ a.reimported = ["ClockController"] ∧
      "MenuController" ∈ a.blockControllers := by
    obtain rfl := RendererKind.stimulus.inj hkind
    decide +kernel
  obtain ⟨hmap, hnew, hmenu⟩ := ha
  obtain ⟨statements, hstatements⟩ := hlocations (by decide +kernel)
  have hall := (himports statements hstatements).2
  have hline : LineImports " import MenuController from './menu.js' " "MenuController"
      "./menu.js" := by
    have hfound : (matchLine? importLine " import MenuController from './menu.js' ").map
        (fun found ↦ (found.group? 1, found.group? 2)) =
        some (some "MenuController", some "./menu.js") := by decide +kernel
    obtain ⟨found, hmatch, hgroups⟩ := Option.map_eq_some_iff.mp hfound
    obtain ⟨hbinding, hsource⟩ := Prod.mk.inj hgroups
    exact ⟨found, hmatch, hbinding, hsource⟩
  obtain ⟨kept, hmem, -, hkeeps⟩ := hkept "MenuController" hmenu (by simp [hnew])
    " import MenuController from './menu.js' " (by decide +kernel) _ hline
  exact ⟨m, block, _, hr, a, hkind, hmap, hnew,
    ⟨statements, hstatements, hall "HelloController" (by simp [hmap]),
      hall "ClockController" (by simp [hnew])⟩, kept, hmem, hkeeps⟩

end ModuleScript.Renderer
