import ModuleScript.Proofs.Render.CoreBindings
import ModuleScript.Proofs.Render.ImportStatements
import ModuleScript.Proofs.Stimulus.LocalNames

/-!
# Names of dropped imports

A line is dropped for the specifier it imports from or for its default binding; whatever else it
binds goes with it. A generated import binds a name from the module of the same name or from the
package, so that a name of a dropped line is bound from where it came only if both have one name.
-/

namespace ModuleScript

open Text

namespace Stimulus

/-! ### What the generated imports bind -/

variable {name source : String}

/-- Blanks between the words of an item do not matter. -/
theorem itemBinds_singleSpaced_iff {item : String} :
    ItemBinds (singleSpaced item) name ↔ ItemBinds item name := by
  rw [ItemBinds, words_singleSpaced, ItemBinds]

/-- There is no line feed in what a line imports from. -/
theorem lineFeed_notMem_source {block line : String} {binding : Option (List Char)}
    (hline : line ∈ lines block) (himports : Imports line.toList binding source.toList) :
    '\n' ∉ source.toList := by
  obtain ⟨clause, w, _, t, htext, -, ⟨w₁, w₂, w₃, q, q', rfl, -⟩, -⟩ := himports.exists_onLine
  intro hmem
  refine lineFeed_notMem_of_mem_lines hline ?_
  simp [htext, hmem]

namespace Application

variable {a : Application} {names : List String} {block : String} {m : ImportMap}
  {statements : List String}

/-- The import of the package binds the application and the local names gathered from the
block. -/
theorem Discovered.binds_coreImport_iff (h : a.Discovered names block) :
    Binds a.coreImport name source ↔
      source = coreModule ∧ ∃ given ∈ "Application" :: a.coreBindings, ItemBinds given name := by
  obtain ⟨i, hi, ⟨hbefore, hbehind, hgap⟩, hread⟩ := h.exists_blanks_coreImport
  have hline := CoreImport.onLine_importText hi hbefore hbehind hgap
  have hclose : '\x7d' ∉ i.names := by
    obtain ⟨_, _, _, -, -, ⟨_, _, -, -, hclose, -⟩, -⟩ := hi
    exact hclose
  have hitems : (∃ given ∈ "Application" :: a.coreBindings, ItemBinds given name) ↔
      ∃ item ∈ split (String.ofList i.names) ',', ItemBinds item name := by
    simp only [← hread, bindingNames_eq, List.mem_map, exists_exists_and_eq_and,
      itemBinds_singleSpaced_iff]
  rw [hitems]
  constructor
  · rintro ⟨clause, hclause, hbinds⟩
    have hbraces : isBlank '\x7b' = false ∧ isBlank '\x7d' = false := by decide
    have htight : trimChars ('\x7b' :: (i.names ++ ['\x7d'])) =
        '\x7b' :: (i.names ++ ['\x7d']) := by
      apply trimChars_eq_self
      · simp [hbraces]
      · simp [List.getLast?_cons, hbraces]
    have hsame := trimChars_clause_unique hline hclause
    rw [htight] at hsame
    obtain ⟨p, q, hp, hq, heq⟩ := padded_trimChars clause
    rw [heq, ← hsame, List.cons_append] at hbinds
    refine ⟨String.toList_inj.mp (source_unique hclause hline), ?_⟩
    rcases hbinds.of_sign hp (by decide) (by decide) with ⟨hstar, -⟩ |
      ⟨-, items, behind, hrest, hnone, hitem⟩
    · exact absurd hstar (by decide)
    · have hopen {items : List Char} (h : '\x7d' ∉ items) : ∀ c ∈ items, (c != '\x7d') = true :=
        fun c hc ↦ by simpa using ne_of_mem_of_not_mem hc h
      rw [List.append_assoc, List.singleton_append] at hrest
      obtain ⟨rfl, -⟩ := append_inj_of_stop (hopen hclose) (hopen hnone) (by simp) (by simp) hrest
      exact hitem
  · rintro ⟨rfl, hitem⟩
    have hfront : Lead [] := .inl blanks_nil
    exact ⟨_, hline, .braces hfront hclose hitem⟩

/-- A generated import binds a name from the package, a name of an entry from that entry, or a
controller that is imported anew from its own name. -/
theorem Discovered.exists_binds_importLines_iff (h : a.Discovered m.names block)
    (hlines : a.importLines m.entries = .ok statements) :
    (∃ statement ∈ statements, Binds statement name source) ↔
      (source = coreModule ∧ ∃ given ∈ "Application" :: a.coreBindings, ItemBinds given name) ∨
      (∃ e ∈ m.entries, isCoreEntry e = .ok false ∧ Script.isBindingName e.name = true ∧
        name = trim e.name ∧ source = e.name) ∨
      (name ∈ a.reimported ∧ source = name) := by
  obtain ⟨others, hothers, rfl⟩ := importLines_eq_ok_iff.mp hlines
  have hentry (e : Entry) : Binds (Script.importStatement e.name) name source ↔
      Script.isBindingName e.name = true ∧ name = trim e.name ∧ source = e.name := by
    cases hbinding : Script.isBindingName e.name with
    | true =>
      have hname : Script.isIdentifier e.name = true := by
        rw [Script.isBindingName, Bool.and_eq_true] at hbinding
        exact hbinding.1
      rw [importStatement_of_isBindingName hbinding, binds_controllerImport_iff hname]
      simp
    | false =>
      rw [iff_false_intro (not_binds_of_quote (toList_importStatement hbinding))]
      simp
  have hnew {x : String} (hx : x ∈ a.reimported) :
      Binds (controllerImport x) name source ↔ name = x ∧ source = x := by
    obtain ⟨-, place, hplace⟩ := h.fresh_blockControllers.candidate x (h.mem_reimported.mp hx).1
    have htext := identifierText_of_mem_controllerPlaces hplace
    have hname : Script.isIdentifier x = true :=
      (Script.isIdentifier_iff x).mpr ⟨_, [], (List.append_nil _).symm, htext, .inl rfl⟩
    have htrim : trim x = x := by
      rw [trim, (localText_of_identifierText htext).trimChars_eq, String.ofList_toList]
    rw [binds_controllerImport_iff hname, htrim]
  simp only [List.mem_cons, List.mem_append, List.mem_map, or_and_right, exists_or,
    exists_eq_left, exists_exists_and_eq_and, h.binds_coreImport_iff]
  refine or_congr_right (or_congr ?_ ?_)
  · simp only [hentry, mem_otherEntries_iff hothers, and_assoc]
  · constructor
    · rintro ⟨x, hx, hbinds⟩
      obtain ⟨rfl, rfl⟩ := (hnew hx).mp hbinds
      exact ⟨hx, rfl⟩
    · rintro ⟨hx, rfl⟩
      exact ⟨_, hx, (hnew hx).mpr ⟨rfl, rfl⟩⟩

/-- So a name is bound at all if it comes from the package, from an entry or anew. -/
theorem Discovered.exists_binds_somewhere_iff (h : a.Discovered m.names block)
    (hlines : a.importLines m.entries = .ok statements) :
    (∃ statement ∈ statements, ∃ module, Binds statement name module) ↔
      (∃ given ∈ "Application" :: a.coreBindings, ItemBinds given name) ∨
      (∃ e ∈ m.entries, isCoreEntry e = .ok false ∧ Script.isBindingName e.name = true ∧
        name = trim e.name) ∨
      name ∈ a.reimported := by
  constructor
  · rintro ⟨statement, hmem, module, hbinds⟩
    rcases (h.exists_binds_importLines_iff hlines).mp ⟨statement, hmem, hbinds⟩ with
      ⟨-, hgiven⟩ | ⟨e, he, hother, hbinding, hname, -⟩ | ⟨hagain, -⟩
    · exact .inl hgiven
    · exact .inr (.inl ⟨e, he, hother, hbinding, hname⟩)
    · exact .inr (.inr hagain)
  · intro hname
    have hsource : ∃ module, ∃ statement ∈ statements, Binds statement name module := by
      simp only [h.exists_binds_importLines_iff hlines]
      rcases hname with hgiven | ⟨e, he, hother, hbinding, hname⟩ | hagain
      · exact ⟨_, .inl ⟨rfl, hgiven⟩⟩
      · exact ⟨_, .inr (.inl ⟨e, he, hother, hbinding, hname, rfl⟩)⟩
      · exact ⟨_, .inr (.inr ⟨hagain, rfl⟩)⟩
    obtain ⟨module, statement, hmem, hbinds⟩ := hsource
    exact ⟨statement, hmem, module, hbinds⟩

/-! ### What a dropped line binds -/

/-- A line with a default binding that imports from elsewhere than the package is dropped for its
specifier or for its binding. -/
theorem handles_iff_of_default {line : String}
    (himports : Imports line.toList (some name.toList) source.toList)
    (hsource : source ≠ coreModule) :
    a.handles line = true ↔
      source ∈ a.controllers ∨ name ∈ a.mapControllers ∨ name ∈ a.reimported := by
  rw [a.handles_of_imports himports, String.ofList_toList, if_neg hsource, Bool.or_eq_true,
    Option.any_some, String.ofList_toList, List.contains_iff_mem, List.contains_iff_mem,
    List.mem_append]

/-- If the default binding of a dropped line is a controller of the block, it is imported anew. -/
theorem Discovered.mem_reimported_of_dropped (h : a.Discovered names block) {line : String}
    (hline : line ∈ lines (trim block)) (hdropped : a.handles line = true)
    (himports : Imports line.toList (some name.toList) source.toList)
    (hsource : source ≠ coreModule) (hnew : name ∉ a.mapControllers)
    (hname : name ∈ a.blockControllers) : name ∈ a.reimported := by
  rcases (handles_iff_of_default himports hsource).mp hdropped with hcontroller | hmap | hagain
  · obtain ⟨whole, hwhole, hpad⟩ := exists_padded_of_mem_lines_trim hline
    have hwhole' := (imports_iff_of_padded hpad).mpr himports
    exact h.mem_reimported.mpr ⟨hname, whole, hwhole, _, hwhole', by rwa [String.ofList_toList]⟩
  · exact absurd hmap hnew
  · exact hagain

/-- So it is if it is imported from the module of its own name. -/
theorem Discovered.mem_reimported_of_own_name (h : a.Discovered names block) {line : String}
    (hline : line ∈ lines (trim block)) (hdropped : a.handles line = true)
    (himports : Imports line.toList (some name.toList) name.toList) (hsource : name ≠ coreModule)
    (hnew : name ∉ a.mapControllers) : name ∈ a.reimported := by
  rcases (handles_iff_of_default himports hsource).mp hdropped with hcontroller | hmap | hagain
  · have hblock := (List.mem_append.mp hcontroller).resolve_left hnew
    exact h.mem_reimported_of_dropped hline hdropped himports hsource hnew hblock
  · exact absurd hmap hnew
  · exact hagain

/-- A name that a generated import takes from the module of that name. -/
def TakesByName (a : Application) (entries : List Entry) (name : String) : Prop :=
  name ∈ a.reimported ∨
    ∃ e ∈ entries, e.name = name ∧ isCoreEntry e = .ok false ∧ Script.isBindingName name = true

/-- From elsewhere than the package, a generated import takes a name by name only. -/
theorem Discovered.exists_binds_iff_takesByName (h : a.Discovered m.names block)
    (hlines : a.importLines m.entries = .ok statements) (hsource : source ≠ coreModule)
    (hfeed : '\n' ∉ source.toList) :
    (∃ statement ∈ statements, Binds statement name source) ↔
      name = source ∧ a.TakesByName m.entries name := by
  have htrim (hbinding : Script.isBindingName source = true) : trim source = source :=
    trim_eq_of_isIdentifier (Script.isIdentifier_of_isBindingName hbinding) hfeed
  rw [h.exists_binds_importLines_iff hlines, TakesByName]
  constructor
  · rintro (⟨hcore, -⟩ | ⟨e, he, hother, hbinding, rfl, rfl⟩ | ⟨hagain, rfl⟩)
    · exact absurd hcore hsource
    · rw [htrim hbinding]
      exact ⟨rfl, .inr ⟨e, he, rfl, hother, hbinding⟩⟩
    · exact ⟨rfl, .inl hagain⟩
  · rintro ⟨rfl, hagain | ⟨e, he, rfl, hother, hbinding⟩⟩
    · exact .inr (.inr ⟨hagain, rfl⟩)
    · exact .inr (.inl ⟨e, he, hother, hbinding, (htrim hbinding).symm, rfl⟩)

end Application

end Stimulus

namespace Renderer

open Stimulus

variable {m : ImportMap} {block : String} {given : Option String} {analyzer : Option Analyzer}
  {r : Renderer}

/-- From an application over a map and from caches with nothing in them, the imports are generated
unless a location is missing. Of the names that a dropped import line binds from elsewhere than the
package, but for controllers of the map, a generated import binds exactly those from the same
module that have the name of this module and are taken by name. A name is bound at all exactly if
the import of the package gives it, an entry is imported under it, or it is imported anew. By
default imported controllers of the block are always imported anew, and so is what is imported by
default from the module of its own name. -/
theorem dropped_names_come_back_by_name (hr : stimulus? m.names block given analyzer = .ok r) :
    ∃ a : Application, r.kind = .stimulus a ∧
      ((∀ e ∈ m.entries, e.location ≠ none) →
        ∃ statements, a.importLines m.entries = .ok statements) ∧
      ∀ statements, a.importLines m.entries = .ok statements →
        (∀ s : Store, s.Cold →
          ((r.imports m).run s).1 = .ok (.text (joinLines statements))) ∧
        ∀ line ∈ lines (trim block), a.handles line = true →
          ∀ binding source, Imports line.toList binding source.toList → source ≠ coreModule →
            ∀ name, Binds line name source → name ∉ a.mapControllers →
              ((∃ statement ∈ statements, Binds statement name source) ↔
                name = source ∧ a.TakesByName m.entries name) ∧
              ((∃ statement ∈ statements, ∃ module, Binds statement name module) ↔
                (∃ given ∈ "Application" :: a.coreBindings, ItemBinds given name) ∨
                (∃ e ∈ m.entries, isCoreEntry e = .ok false ∧
                  Script.isBindingName e.name = true ∧ name = trim e.name) ∨
                name ∈ a.reimported) ∧
              (binding = some name.toList →
                (name ∈ a.reimported ↔ name ∈ a.blockControllers) ∧
                (name = source → name ∈ a.reimported)) := by
  obtain ⟨a, -, ha, rfl⟩ := exists_discovered hr
  refine ⟨a, rfl, exists_importLines a, fun statements h ↦ ⟨fun s hs ↦
    run_imports_of_cold rfl h hs, ?_⟩⟩
  intro line hline hdropped binding source himports hsource name hbinds hnew
  have hfeed := lineFeed_notMem_source hline himports
  refine ⟨ha.exists_binds_iff_takesByName h hsource hfeed, ha.exists_binds_somewhere_iff h, ?_⟩
  rintro rfl
  refine ⟨⟨fun hagain ↦ (ha.mem_reimported.mp hagain).1,
    ha.mem_reimported_of_dropped hline hdropped himports hsource hnew⟩, ?_⟩
  rintro rfl
  exact ha.mem_reimported_of_own_name hline hdropped himports hsource hnew

/-- The named import of a controller from the module of another is dropped, and the name of the
controller is bound nowhere. -/
theorem menu_is_registered_unbound :
    ∃ (m : ImportMap) (block line : String) (r : Renderer),
      stimulus? m.names block none none = .ok r ∧ line ∈ lines (trim block) ∧
      Binds line "MenuController" "TabController" ∧
      ∃ a : Application, r.kind = .stimulus a ∧ a.handles line = true ∧
        a.controllers = ["TabController", "MenuController"] ∧
        ∃ statements, a.importLines m.entries = .ok statements ∧
          ∀ statement ∈ statements, ∀ source, ¬ Binds statement "MenuController" source := by
  let tab : Entry := { name := "TabController", location := some "/tab.js" }
  let m : ImportMap := ({} : ImportMap).change (.add tab)
  let line := "import \x7b MenuController \x7d from \"TabController\";"
  let block := line ++ "\napplication.register(\"menu\", MenuController);"
  have happ : Script.isIdentifier (nameOr "application" none) = true := by decide +kernel
  have hr := stimulus?_of_isIdentifier m.names block none happ
  obtain ⟨a, hkind, hlocations, hall⟩ := dropped_names_come_back_by_name hr
  obtain ⟨statements, hstatements⟩ := hlocations (by decide +kernel)
  have ha : a = ⟨"application", ["TabController"], ["MenuController"], [], []⟩ := by
    obtain rfl := RendererKind.stimulus.inj hkind
    decide +kernel
  have hline : line ∈ lines (trim block) := by decide +kernel
  have hgroups : (matchLine? importLine line).map (fun found ↦ (found.group? 1, found.group? 2)) =
      some (none, some "TabController") := by decide +kernel
  have himports : Imports line.toList none "TabController".toList := imports_of_groups hgroups
  have hdropped : a.handles line = true := by
    rw [a.handles_of_imports himports, ha]
    decide +kernel
  have hbinds : Binds line "MenuController" "TabController" := by
    have hspace : [' '] ≠ [] ∧ Blanks [' '] := ⟨by simp, blanks_space⟩
    have hword : words " MenuController " = ["MenuController"] := by decide +kernel
    refine ⟨[] ++ '\x7b' :: (" MenuController ".toList ++ '\x7d' :: []), ⟨[], _, [';'], ?_,
      blanks_nil, ⟨[' '], [' '], [' '], '"', '"', rfl, hspace, hspace, hspace, ?_, ?_, ?_⟩,
      lineEnd_semicolon⟩, .braces (.inl blanks_nil) ?_ ⟨_, ?_, .inl hword⟩⟩
    all_goals decide +kernel
  obtain ⟨-, hbound, -⟩ := (hall statements hstatements).2 line hline hdropped none "TabController"
    himports (by decide) "MenuController" hbinds (by simp [ha])
  refine ⟨m, block, line, _, hr, hline, hbinds, a, hkind, hdropped, by rw [ha]; rfl, statements,
    hstatements, fun statement hstatement source hsource ↦ ?_⟩
  rcases hbound.mp ⟨statement, hstatement, source, hsource⟩ with
    ⟨given, hgiven, hitem⟩ | ⟨e, he, -, -, hname⟩ | hagain
  · rw [ha, List.mem_singleton] at hgiven
    have hwords : words given = ["Application"] := by
      rw [hgiven]
      decide +kernel
    rw [ItemBinds, hwords] at hitem
    rcases hitem with hone | ⟨before, hne, hmore⟩
    · exact absurd hone (by decide)
    · have hlength := congrArg List.length hmore
      simp at hlength
  · have hentries : m.entries = [tab] := rfl
    rw [hentries, List.mem_singleton] at he
    rw [he] at hname
    exact absurd hname (by decide +kernel)
  · rw [ha] at hagain
    exact absurd hagain List.not_mem_nil

end Renderer

end ModuleScript
