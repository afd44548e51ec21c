import ModuleScript.Proofs.Render.Controllers

/-!
# The generated imports

Different names have different import statements, and none of them is the import of the package.
An import is therefore generated a second time only where a controller of the block is imported
anew and an entry of the map, which does not have the name of a controller, goes by the same name.
-/

namespace ModuleScript

open Text

namespace Stimulus

/-! ### Statements -/

private theorem toList_controllerImport (name : String) : (controllerImport name).toList =
    "import ".toList ++ (name.toList ++ (" from \"".toList ++ (name.toList ++ "\";".toList))) := by
  simp [controllerImport, toString]

/-- Controllers with the same import are the same. -/
theorem controllerImport_inj {x y : String} (h : controllerImport x = controllerImport y) :
    x = y := by
  have hlist := congrArg String.toList h
  rw [toList_controllerImport, toList_controllerImport] at hlist
  have hlength := congrArg List.length hlist
  simp only [List.length_append] at hlength
  have hnames := List.append_cancel_left hlist
  exact String.toList_inj.mp (List.append_inj_left hnames (by omega))

/-- A name with a binding is imported like a controller. -/
theorem importStatement_of_isBindingName {name : String} (h : Script.isBindingName name = true) :
    Script.importStatement name = controllerImport name := by
  rw [Script.importStatement, if_pos h]
  rfl

/-- A name that starts like an identifier. -/
def StartsName (name : String) : Prop := ∃ c w, name.toList = c :: w ∧ Script.isStart c = true

theorem startsName_of_isBindingName {name : String} (h : Script.isBindingName name = true) :
    StartsName name := by
  obtain ⟨_, t, hname, ⟨c, w, rfl, hc, -⟩, -⟩ :=
    (Script.isIdentifier_iff name).mp (Script.isIdentifier_of_isBindingName h)
  exact ⟨c, w ++ t, hname, hc⟩

/-- A statement with a binding and one whose first word is followed by another sign differ. -/
private theorem controllerImport_ne {name : String} {c : Char} {rest : List Char}
    {statement : String} (hname : StartsName name) (hc : Script.isStart c = false)
    (h : statement.toList = "import ".toList ++ c :: rest) : controllerImport name ≠ statement := by
  rintro rfl
  obtain ⟨d, w, hd, hstart⟩ := hname
  rw [toList_controllerImport, hd] at h
  have hhead := List.append_cancel_left h
  rw [List.cons_append] at hhead
  rw [(List.cons.inj hhead).1, hc] at hstart
  exact Bool.false_ne_true hstart

theorem toList_importStatement {name : String} (h : Script.isBindingName name = false) :
    (Script.importStatement name).toList =
      "import ".toList ++ '"' :: (name.toList ++ "\";".toList) := by
  rw [Script.importStatement, if_neg (by simp [h])]
  simp [toString]

/-- A controller and a name without a binding have different imports. -/
theorem controllerImport_ne_importStatement {x name : String} (hx : StartsName x)
    (h : Script.isBindingName name = false) : controllerImport x ≠ Script.importStatement name :=
  controllerImport_ne hx (by decide) (toList_importStatement h)

/-- Different names have different imports. -/
theorem importStatement_injective : Function.Injective Script.importStatement := by
  intro x y h
  cases hx : Script.isBindingName x <;> cases hy : Script.isBindingName y
  · have hlist := congrArg String.toList h
    rw [toList_importStatement hx, toList_importStatement hy] at hlist
    have hnames := (List.cons.inj (List.append_cancel_left hlist)).2
    exact String.toList_inj.mp (List.append_cancel_right hnames)
  · rw [importStatement_of_isBindingName hy] at h
    exact absurd h.symm
      (controllerImport_ne_importStatement (startsName_of_isBindingName hy) hx)
  · rw [importStatement_of_isBindingName hx] at h
    exact absurd h (controllerImport_ne_importStatement (startsName_of_isBindingName hx) hy)
  · rw [importStatement_of_isBindingName hx, importStatement_of_isBindingName hy] at h
    exact controllerImport_inj h

namespace Application

variable {a : Application} {entries : List Entry} {statements : List String}

/-- A brace follows the first word of the import of the package. -/
private theorem exists_toList_coreImport (a : Application) :
    ∃ rest, a.coreImport.toList = "import ".toList ++ '\x7b' :: rest := by
  have hhead : "import \x7b ".toList = "import ".toList ++ ['\x7b', ' '] := by decide
  rw [coreImport, String.toList_append, String.toList_append, String.toList_append,
    String.toList_append, hhead]
  exact ⟨_, by simp only [List.append_assoc, List.cons_append]; rfl⟩

/-- No other statement is the import of the package. -/
theorem controllerImport_ne_coreImport (a : Application) {x : String} (hx : StartsName x) :
    controllerImport x ≠ a.coreImport := by
  obtain ⟨rest, hrest⟩ := exists_toList_coreImport a
  exact controllerImport_ne hx (by decide) hrest

theorem importStatement_ne_coreImport (a : Application) (name : String) :
    Script.importStatement name ≠ a.coreImport := by
  cases h : Script.isBindingName name with
  | true =>
    rw [importStatement_of_isBindingName h]
    exact a.controllerImport_ne_coreImport (startsName_of_isBindingName h)
  | false =>
    obtain ⟨rest, hrest⟩ := exists_toList_coreImport a
    intro heq
    rw [← heq, toList_importStatement h] at hrest
    have hhead := (List.cons.inj (List.append_cancel_left hrest)).1
    exact absurd hhead (by decide)

/-- The names imported from the package are not repeated. -/
theorem Discovered.nodup_coreBindings {names : List String} {block : String}
    (h : a.Discovered names block) : ("Application" :: a.coreBindings).Nodup := by
  rw [h]
  refine List.nodup_cons.mpr ⟨?_, nodup_foldl_addNew List.nodup_nil⟩
  intro happ
  rcases mem_foldl_addNew.mp happ with hnil | hfilter
  · exact absurd hnil List.not_mem_nil
  · exact absurd (List.mem_filter.mp hfilter).2 (by decide)

/-- A controller that is imported anew starts like an identifier. -/
theorem Discovered.startsName {names : List String} {block x : String}
    (h : a.Discovered names block) (hx : x ∈ a.reimported) : StartsName x := by
  obtain ⟨-, place, hplace⟩ := h.fresh_blockControllers.candidate x (h.mem_reimported.mp hx).1
  obtain ⟨c, w, hname, hc, -⟩ := identifierText_of_mem_controllerPlaces hplace
  exact ⟨c, w, hname, hc⟩

theorem Discovered.nodup_reimported {names : List String} {block : String}
    (h : a.Discovered names block) : a.reimported.Nodup := by
  rw [h]
  change (findReimported _ _ block).Nodup
  rw [findReimported_eq]
  exact nodup_foldl_addNew List.nodup_nil

/-! ### Statements that are repeated -/

/-- An entry that is imported under a name under which a controller of the block is imported
anew. -/
structure Repeats (a : Application) (e : Entry) : Prop where
  other : isCoreEntry e = .ok false
  binding : Script.isBindingName e.name = true
  reimported : e.name ∈ a.reimported

/-- Such an entry does not have the name of a controller. -/
theorem Repeats.isControllerName_eq_false {m : ImportMap} {block : String}
    (ha : a.Discovered m.names block) {e : Entry} (h : a.Repeats e) (he : e ∈ m.entries) :
    Script.isControllerName e.name = false := by
  rw [Bool.eq_false_iff]
  intro hcontroller
  refine ha.fresh_blockControllers.notKnown e.name (ha.mem_reimported.mp h.reimported).1 ?_
  rw [ha.mapControllers_eq, List.mem_filter]
  exact ⟨List.mem_map_of_mem he, hcontroller⟩

/-- An item of two lists without repetitions occurs twice exactly if it is in both of them. -/
theorem count_append_of_nodup {α : Type} [DecidableEq α] {xs ys : List α} (hxs : xs.Nodup)
    (hys : ys.Nodup) (x : α) :
    (xs ++ ys).count x ≤ 2 ∧ ((xs ++ ys).count x = 2 ↔ x ∈ xs ∧ x ∈ ys) := by
  have hcount {zs : List α} (hzs : zs.Nodup) : zs.count x = if x ∈ zs then 1 else 0 := by
    split
    next hx => exact List.count_eq_one_of_mem hzs hx
    next hx => exact List.count_eq_zero.mpr hx
  rw [List.count_append, hcount hxs, hcount hys]
  by_cases hx : x ∈ xs <;> by_cases hy : x ∈ ys <;> simp [hx, hy]

/-- No statement occurs more than twice, and twice only one that an entry repeats. -/
theorem Discovered.count_importLines {m : ImportMap} {block : String}
    (ha : a.Discovered m.names block) (hnames : m.names.Nodup)
    (h : a.importLines m.entries = .ok statements) (statement : String) :
    statements.count statement ≤ 2 ∧ (statements.count statement = 2 ↔
      ∃ e ∈ m.entries, a.Repeats e ∧ statement = controllerImport e.name) := by
  obtain ⟨others, hothers, rfl⟩ := importLines_eq_ok_iff.mp h
  have hother : (others.map (Script.importStatement ·.name)).Nodup := by
    have hsub : (others.map (·.name)).Sublist m.names := by
      rw [otherEntries_eq hothers]
      exact List.filter_sublist.map _
    have hmap := (hnames.sublist hsub).map importStatement_injective
    rwa [List.map_map] at hmap
  have hfirst : (a.coreImport :: others.map (Script.importStatement ·.name)).Nodup := by
    refine List.nodup_cons.mpr ⟨fun hmem ↦ ?_, hother⟩
    obtain ⟨e, -, heq⟩ := List.mem_map.mp hmem
    exact a.importStatement_ne_coreImport e.name heq
  have hsecond : (a.reimported.map controllerImport).Nodup :=
    ha.nodup_reimported.map fun _ _ ↦ controllerImport_inj
  obtain ⟨hle, htwice⟩ := count_append_of_nodup hfirst hsecond statement
  rw [← List.cons_append]
  refine ⟨hle, htwice.trans ⟨?_, ?_⟩⟩
  · rintro ⟨hmem, hnew⟩
    obtain ⟨x, hx, rfl⟩ := List.mem_map.mp hnew
    have hstarts := ha.startsName hx
    rcases List.mem_cons.mp hmem with hcore | hmem
    · exact absurd hcore (a.controllerImport_ne_coreImport hstarts)
    · obtain ⟨e, he, heq⟩ := List.mem_map.mp hmem
      obtain ⟨he, hcore⟩ := (mem_otherEntries_iff hothers).mp he
      cases hbinding : Script.isBindingName e.name with
      | false => exact absurd heq.symm (controllerImport_ne_importStatement hstarts hbinding)
      | true =>
        rw [importStatement_of_isBindingName hbinding] at heq
        obtain rfl := controllerImport_inj heq
        exact ⟨e, he, ⟨hcore, hbinding, hx⟩, rfl⟩
  · rintro ⟨e, he, hrepeats, rfl⟩
    refine ⟨List.mem_cons_of_mem _ (List.mem_map.mpr ⟨e, ?_, ?_⟩), ?_⟩
    · exact (mem_otherEntries_iff hothers).mpr ⟨he, hrepeats.other⟩
    · exact importStatement_of_isBindingName hrepeats.binding
    · exact List.mem_map_of_mem hrepeats.reimported

end Application

end Stimulus

namespace Renderer

open Stimulus

variable {m : ImportMap} {block : String} {given : Option String} {analyzer : Option Analyzer}
  {r : Renderer}

/-- From an application over a map, however it was built, and from caches with nothing in them, the
imports are generated unless a location is missing. The names imported from the package are not
repeated. No statement is generated more than twice, and twice exactly those that an entry of the
map has in common with a controller that is imported anew; the name of such an entry is not that of
a controller. Where there is no such entry, nothing is repeated. -/
theorem only_other_entries_repeat_imports (hm : m.Reachable)
    (hr : stimulus? m.names block given analyzer = .ok r) :
    ∃ a : Application, r.kind = .stimulus a ∧
      ((∀ e ∈ m.entries, e.location ≠ none) →
        ∃ statements, a.importLines m.entries = .ok statements) ∧
      ("Application" :: a.coreBindings).Nodup ∧
      (∀ e ∈ m.entries, a.Repeats e → Script.isControllerName e.name = false) ∧
      ∀ statements, a.importLines m.entries = .ok statements →
        (∀ s : Store, s.Cold →
          ((r.imports m).run s).1 = .ok (.text (joinLines statements))) ∧
        (statements.Nodup ↔ ∀ e ∈ m.entries, ¬ a.Repeats e) ∧
        ∀ statement, statements.count statement ≤ 2 ∧ (statements.count statement = 2 ↔
          ∃ e ∈ m.entries, a.Repeats e ∧ statement = controllerImport e.name) := by
  obtain ⟨a, -, ha, rfl⟩ := exists_discovered hr
  refine ⟨a, rfl, exists_importLines a, ha.nodup_coreBindings,
    fun e he hrepeats ↦ hrepeats.isControllerName_eq_false ha he, fun statements h ↦ ?_⟩
  have hcount := ha.count_importLines hm.wellNamed.nodup h
  refine ⟨fun s hs ↦ run_imports_of_cold rfl h hs, ?_, hcount⟩
  rw [List.nodup_iff_count_le_one]
  constructor
  · intro hone e he hrepeats
    have htwice := (hcount (controllerImport e.name)).2.mpr ⟨e, he, hrepeats, rfl⟩
    have hle := hone (controllerImport e.name)
    omega
  · intro hnone statement
    obtain ⟨hle, htwice⟩ := hcount statement
    have hne : statements.count statement ≠ 2 := fun heq ↦
      have ⟨e, he, hrepeats, _⟩ := htwice.mp heq
      hnone e he hrepeats
    omega

/-- A block that imports and registers a class by the name of an entry has it imported twice. -/
theorem clock_is_imported_twice :
    ∃ (m : ImportMap) (block : String) (r : Renderer), m.Reachable ∧
      stimulus? m.names block none none = .ok r ∧
      ∃ a : Application, r.kind = .stimulus a ∧
        (∃ e ∈ m.entries, a.Repeats e ∧ e.name = "Clock") ∧
        ∃ statements, a.importLines m.entries = .ok statements ∧ ¬ statements.Nodup ∧
          statements.count (controllerImport "Clock") = 2 ∧
          statements.count (controllerImport "HelloController") = 1 := by
  let clock : Entry := { name := "Clock", location := some "/clock.js" }
  let hello : Entry := { name := "HelloController", location := some "/hello.js" }
  let m : ImportMap := (({} : ImportMap).change (.add clock)).change (.add hello)
  let block := "import Clock from \"Clock\";\napplication.register(\"clock\", Clock);\ntick();"
  have hm : m.Reachable := .change _ (.change _ (.new _))
  have happ : Script.isIdentifier (nameOr "application" none) = true := by decide +kernel
  have hr := stimulus?_of_isIdentifier m.names block none happ
  obtain ⟨a, hkind, hlocations, -, -, hall⟩ := only_other_entries_repeat_imports hm hr
  obtain ⟨statements, hstatements⟩ := hlocations (by decide +kernel)
  obtain ⟨-, hnodup, hcount⟩ := hall statements hstatements
  have hentries : m.entries = [clock, hello] := rfl
  have hclock : clock ∈ m.entries := hentries ▸ List.mem_cons_self
  have hrepeats : a.Repeats clock := by
    obtain rfl := RendererKind.stimulus.inj hkind
    exact ⟨by decide +kernel, by decide +kernel, by decide +kernel⟩
  have hhello : statements.count (controllerImport "HelloController") = 1 := by
    have hlines : (a.importLines m.entries).toOption.map
        (·.count (controllerImport "HelloController")) = some 1 := by
      obtain rfl := RendererKind.stimulus.inj hkind
      decide +kernel
    rw [hstatements] at hlines
    exact Option.some.inj hlines
  exact ⟨m, block, _, hm, hr, a, hkind, ⟨clock, hclock, hrepeats, rfl⟩, statements, hstatements,
    fun hnone ↦ hnodup.mp hnone clock hclock hrepeats,
    (hcount _).2.mpr ⟨clock, hclock, hrepeats, rfl⟩, hhello⟩

end Renderer

end ModuleScript
