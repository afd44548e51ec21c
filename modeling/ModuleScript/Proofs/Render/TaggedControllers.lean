import ModuleScript.Proofs.Render.ImportStatements

/-!
# Controllers by tag and by name

A map calls an entry a controller of Stimulus for its tags, a renderer for its name. The tag of
the framework also gives away the package itself, so an entry that is a controller by its tags
only is taken for the package: it is imported for no other reason than that the block imports and
registers a class by its name.
-/

namespace ModuleScript

open Text

namespace Stimulus

/-- Of the entries tagged with the framework, those with the name of a controller are told from
the package, and no others. -/
theorem isCoreEntry_eq_false_iff_of_tagged {e : Entry}
    (htag : e.framework.isText "stimulus" = true) :
    isCoreEntry e = .ok false ↔ Script.isControllerName e.name = true := by
  rw [isCoreEntry]
  split
  next hcontroller => simp [hcontroller]
  next hcontroller =>
    split
    next => simp [hcontroller]
    next => cases e.location <;> simp [hcontroller, htag]

namespace Application

variable {a : Application} {m : ImportMap} {block : String} {statements : List String}
  {others : List Entry}

/-- Of the imports by name, an entry has one unless it loads the package. -/
theorem importStatement_mem_otherEntries_iff (hnames : m.names.Nodup)
    (h : otherEntries m.entries = .ok others) {e : Entry} (he : e ∈ m.entries) :
    Script.importStatement e.name ∈ others.map (Script.importStatement ·.name) ↔
      isCoreEntry e = .ok false := by
  constructor
  · intro hmem
    obtain ⟨e', he', hsame⟩ := List.mem_map.mp hmem
    obtain ⟨he', hcore⟩ := (mem_otherEntries_iff h).mp he'
    obtain rfl : e' = e :=
      List.inj_on_of_nodup_map hnames he' he (importStatement_injective hsame)
    exact hcore
  · intro hcore
    exact List.mem_map.mpr ⟨e, (mem_otherEntries_iff h).mpr ⟨he, hcore⟩, rfl⟩

/-- Of the imports that are written anew, a name has one if it reads as the binding of a controller
that is imported anew. -/
theorem Discovered.importStatement_mem_reimported_iff (ha : a.Discovered m.names block)
    (name : String) : Script.importStatement name ∈ a.reimported.map controllerImport ↔
      Script.isBindingName name = true ∧ name ∈ a.reimported := by
  constructor
  · intro hmem
    obtain ⟨x, hx, hsame⟩ := List.mem_map.mp hmem
    cases hbinding : Script.isBindingName name with
    | false =>
      exact absurd hsame (controllerImport_ne_importStatement (ha.startsName hx) hbinding)
    | true =>
      rw [importStatement_of_isBindingName hbinding] at hsame
      exact ⟨rfl, controllerImport_inj hsame ▸ hx⟩
  · rintro ⟨hbinding, hx⟩
    rw [importStatement_of_isBindingName hbinding]
    exact List.mem_map_of_mem hx

/-- The import of an entry is generated if the entry does not load the package, and for a
controller that is imported anew. -/
theorem Discovered.importStatement_mem_iff (ha : a.Discovered m.names block)
    (hnames : m.names.Nodup) (h : a.importLines m.entries = .ok statements) {e : Entry}
    (he : e ∈ m.entries) : Script.importStatement e.name ∈ statements ↔
      isCoreEntry e = .ok false ∨ Script.isBindingName e.name = true ∧ e.name ∈ a.reimported := by
  obtain ⟨others, hothers, rfl⟩ := importLines_eq_ok_iff.mp h
  rw [List.mem_cons, List.mem_append, importStatement_mem_otherEntries_iff hnames hothers he,
    ha.importStatement_mem_reimported_iff]
  exact or_iff_right (a.importStatement_ne_coreImport e.name)

end Application

end Stimulus

namespace Renderer

open Stimulus

variable {m : ImportMap} {block : String} {given : Option String} {analyzer : Option Analyzer}
  {r : Renderer}

/-- From an application over a map, however it was built and tagged, and from caches with nothing
in them, the imports are generated unless a location is missing. An entry that is tagged as a
controller of Stimulus is one of the controllers of the map; its import is generated exactly if it
has the name of a controller too, or if the block has it imported anew under a name that reads as
a binding. -/
theorem tagged_controllers_are_imported_by_name (hm : m.Reachable)
    (hr : stimulus? m.names block given analyzer = .ok r) :
    ∃ a : Application, r.kind = .stimulus a ∧
      ((∀ e ∈ m.entries, e.location ≠ none) →
        ∃ statements, a.importLines m.entries = .ok statements) ∧
      ∀ statements, a.importLines m.entries = .ok statements →
        (∀ s : Store, s.Cold →
          ((r.imports m).run s).1 = .ok (.text (joinLines statements))) ∧
        ∀ e ∈ m.entries, e.kind = .text "controller" → e.framework = .text "stimulus" →
          e ∈ m.controllers (.text "stimulus") ∧
          (Script.importStatement e.name ∈ statements ↔
            Script.isControllerName e.name = true ∨
              Script.isBindingName e.name = true ∧ e.name ∈ a.reimported) := by
  obtain ⟨a, -, ha, rfl⟩ := exists_discovered hr
  refine ⟨a, rfl, exists_importLines a, fun statements h ↦ ⟨fun s hs ↦
    run_imports_of_cold rfl h hs, fun e he hkind hframework ↦ ⟨?_, ?_⟩⟩⟩
  · refine List.mem_filter.mpr ⟨he, ?_⟩
    rw [hkind, hframework]
    decide
  · rw [ha.importStatement_mem_iff hm.wellNamed.nodup h he]
    refine or_congr_left (isCoreEntry_eq_false_iff_of_tagged ?_)
    rw [hframework]
    decide

/-- Of three tagged controllers, the one without the name of a controller that the block does not
bring along is not imported. -/
theorem tagged_clock_is_not_imported :
    ∃ (m : ImportMap) (block : String) (r : Renderer), m.Reachable ∧
      stimulus? m.names block none none = .ok r ∧
      m.names = ["clock", "HelloController", "Timer"] ∧
      (∀ e ∈ m.entries, e ∈ m.controllers (.text "stimulus")) ∧
      ∃ a : Application, r.kind = .stimulus a ∧
        ∃ statements, a.importLines m.entries = .ok statements ∧
          "import \"clock\";" ∉ statements ∧
          "import HelloController from \"HelloController\";" ∈ statements ∧
          "import Timer from \"Timer\";" ∈ statements := by
  let tagged (name location : String) : Entry :=
    { name, location, kind := .text "controller", framework := .text "stimulus" }
  let m : ImportMap := ((({} : ImportMap).change (.add (tagged "clock" "/clock.js"))).change
    (.add (tagged "HelloController" "/hello.js"))).change (.add (tagged "Timer" "/timer.js"))
  let block := "import Timer from \"Timer\";\napplication.register(\"timer\", Timer);"
  have hm : m.Reachable := .change _ (.change _ (.change _ (.new _)))
  have happ : Script.isIdentifier (nameOr "application" none) = true := by decide +kernel
  have hr := stimulus?_of_isIdentifier m.names block none happ
  obtain ⟨a, hkind, hlocations, hall⟩ := tagged_controllers_are_imported_by_name hm hr
  obtain ⟨statements, hstatements⟩ := hlocations (by decide +kernel)
  have hreimported : a.reimported = ["Timer"] := by
    obtain rfl := RendererKind.stimulus.inj hkind
    decide +kernel
  have himported (name location : String) (he : tagged name location ∈ m.entries) :
      tagged name location ∈ m.controllers (.text "stimulus") ∧
        (Script.importStatement name ∈ statements ↔ Script.isControllerName name = true ∨
          Script.isBindingName name = true ∧ name ∈ a.reimported) :=
    (hall statements hstatements).2 _ he rfl rfl
  obtain ⟨hclock, hclockImport⟩ := himported "clock" "/clock.js" (.head _)
  obtain ⟨hhello, hhelloImport⟩ := himported "HelloController" "/hello.js" (.tail _ (.head _))
  obtain ⟨htimer, htimerImport⟩ := himported "Timer" "/timer.js" (.tail _ (.tail _ (.head _)))
  have hlines : Script.importStatement "clock" = "import \"clock\";" ∧
      Script.importStatement "HelloController" =
        "import HelloController from \"HelloController\";" ∧
      Script.importStatement "Timer" = "import Timer from \"Timer\";" := by decide +kernel
  rw [hlines.1, hreimported] at hclockImport
  rw [hlines.2.1] at hhelloImport
  rw [hlines.2.2, hreimported] at htimerImport
  refine ⟨m, block, _, hm, hr, by decide +kernel, ?_, a, hkind, statements, hstatements,
    fun hmem ↦ ?_, hhelloImport.mpr (.inl (by decide +kernel)),
    htimerImport.mpr (.inr (by decide +kernel))⟩
  · exact List.forall_mem_cons.mpr ⟨hclock, List.forall_mem_cons.mpr ⟨hhello,
      List.forall_mem_singleton.mpr htimer⟩⟩
  · exact absurd (hclockImport.mp hmem) (by decide +kernel)

end Renderer

end ModuleScript
