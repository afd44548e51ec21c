import ModuleScript.Proofs.ImportMap.Listed
import ModuleScript.Proofs.Render.Warnings
import ModuleScript.Render.Outline

/-!
# Where renderings fail

The renderer of an application looks at the location of an entry unless the name tells whether the
entry loads the package. The first entry that has none is where its imports fail, and with them its
scripts. Nothing else fails, as long as the caches keep in each partition what belongs there.
-/

namespace ModuleScript

open Store

/-! ### Entries without a location -/

namespace Stimulus

/-- Neither the name nor a location tells whether the entry loads the package. -/
def Undecided (e : Entry) : Prop :=
  Script.isControllerName e.name = false ∧ e.name ∉ coreNames ∧ e.location = none

instance : DecidablePred Undecided := fun e ↦
  inferInstanceAs (Decidable (_ ∧ _ ∧ e.location = none))

theorem isCoreEntry_eq_error_iff {e : Entry} {name : String} :
    isCoreEntry e = .error name ↔ Undecided e ∧ e.name = name := by
  rw [isCoreEntry, Undecided]
  by_cases hcontroller : Script.isControllerName e.name = true
  · simp [hcontroller]
  · by_cases hcore : e.name ∈ coreNames
    · simp [hcontroller, hcore]
    · cases e.location <;> simp [hcontroller, hcore]

/-- The other entries cannot be told exactly if some entry is undecided; the first one is named. -/
theorem otherEntries_eq_error_iff {entries : List Entry} {name : String} :
    otherEntries entries = .error name ↔
      ∃ e, entries.find? (Undecided ·) = some e ∧ e.name = name := by
  induction entries with
  | nil => simp [otherEntries]
  | cons e rest ih =>
    rw [otherEntries]
    by_cases h : Undecided e
    · rw [isCoreEntry_eq_error_iff.mpr ⟨h, rfl⟩, List.find?_cons_of_pos (by simpa using h)]
      simp [bind, Except.bind]
    · rw [List.find?_cons_of_neg (by simpa using h), ← ih]
      cases hcore : isCoreEntry e with
      | error other => exact absurd (isCoreEntry_eq_error_iff.mp hcore).1 h
      | ok isCore => cases otherEntries rest <;> simp [bind, Except.bind, pure, Except.pure]

/-- An item of the data of a map with null for a location, although its name does not tell whether
the package is loaded. -/
def needsLocation (item : Value) : Bool :=
  item.pairs?.any fun pairs ↦
    match Value.get? "name" pairs with
    | some (.text name) =>
      (Value.get? "location" pairs).any Value.isNull && !Script.isControllerName name &&
        !coreNames.contains name
    | _ => false

/-- The fields of a typed item are a text, and a text or null. -/
theorem exists_typed_of_entryOf {item : Value} {e : LooseEntry}
    (hitem : LooseMap.entryOf item = .ok e) (htyped : LooseMap.itemIsTyped item = true) :
    ∃ pairs name location, item.pairs? = some pairs ∧
      Value.get? "name" pairs = some (.text name) ∧
      Value.get? "location" pairs = some (.ofText? location) ∧
      e.name = .text name ∧ e.location = .ofText? location := by
  rw [LooseMap.entryOf] at hitem
  split at hitem
  next pairs hpairs =>
    split at hitem
    next name location hname hlocation =>
      obtain rfl := Except.ok.inj hitem
      rw [LooseMap.itemIsTyped, hpairs, Option.all_some, hname, hlocation, Option.all_some,
        Option.all_some, Bool.and_eq_true, Bool.or_eq_true] at htyped
      obtain ⟨text, htext⟩ := Option.isSome_iff_exists.mp htyped.1
      obtain rfl : name = .text text := by
        cases name with
        | text s => exact congrArg Value.text (Option.some.inj htext)
        | _ => exact absurd htext (by simp [Value.toText?])
      have hlocation' : location = .ofText? location.toText? := by
        cases location with
        | null => rfl
        | text s => rfl
        | _ => exact absurd htyped.2 (by simp [Value.isNull, Value.toText?])
      exact ⟨pairs, text, location.toText?, hpairs, hname, hlocation' ▸ hlocation, rfl, hlocation'⟩
    next => exact absurd hitem (by simp)
  next => exact absurd hitem (by simp)

/-- A renderer sees all of a typed entry. -/
theorem eq_loose_outline {item : Value} {e : LooseEntry}
    (hitem : LooseMap.entryOf item = .ok e) (htyped : LooseMap.itemIsTyped item = true) :
    e = e.outline.loose := by
  obtain ⟨-, name, location, -, -, -, hname, hlocation⟩ := exists_typed_of_entryOf hitem htyped
  obtain ⟨_, _, preload, kind, framework⟩ := e
  obtain rfl := hname
  obtain rfl := hlocation
  cases location <;> rfl

/-- A renderer sees all of the entries of typed items. -/
theorem entries_eq_loose_outline {items : List Value} {entries : List LooseEntry}
    (h : List.Forall₂ (fun item e ↦ LooseMap.entryOf item = .ok e ∧ e.name.isTruthy = true)
      items entries) (htyped : items.all LooseMap.itemIsTyped = true) :
    entries = (entries.map LooseEntry.outline).map Entry.loose := by
  induction h with
  | nil => rfl
  | @cons item e items entries hread _ ih =>
    rw [List.all_cons, Bool.and_eq_true] at htyped
    rw [List.map_cons, List.map_cons, ← eq_loose_outline hread.1 htyped.1, ← ih htyped.2]

/-- Such an item becomes an undecided entry, and no other typed item does. -/
theorem needsLocation_iff {item : Value} {e : LooseEntry}
    (hitem : LooseMap.entryOf item = .ok e) (htyped : LooseMap.itemIsTyped item = true) :
    needsLocation item = true ↔ Undecided e.outline := by
  obtain ⟨pairs, name, location, hpairs, hget, hlocation, hname, heq⟩ :=
    exists_typed_of_entryOf hitem htyped
  have houtline : e.outline.name = name ∧ e.outline.location = location := by
    rw [LooseEntry.outline, hname, heq]
    cases location <;> exact ⟨rfl, rfl⟩
  have hnull : (Value.ofText? location).isNull = true ↔ location = none := by
    cases location <;> simp [Value.ofText?, Value.isNull]
  rw [needsLocation, hpairs, Option.any_some, hget, hlocation, Undecided, houtline.1, houtline.2,
    ← hnull]
  simp only [Option.any_some, Bool.and_eq_true, Bool.not_eq_true', List.contains_eq_mem,
    decide_eq_false_iff_not]
  tauto

/-- The first item that needs a location becomes the first undecided entry. -/
theorem find?_undecided {items : List Value} {entries : List LooseEntry}
    (h : List.Forall₂ (fun item e ↦ LooseMap.entryOf item = .ok e ∧ e.name.isTruthy = true)
      items entries) (htyped : items.all LooseMap.itemIsTyped = true) :
    (entries.find? (Undecided ·.outline)).map .ok =
      (items.find? needsLocation).map LooseMap.entryOf := by
  induction h with
  | nil => rfl
  | @cons item e items entries hread _ ih =>
    rw [List.all_cons, Bool.and_eq_true] at htyped
    have hitem : decide (Undecided e.outline) = needsLocation item := by
      rw [Bool.eq_iff_iff, decide_eq_true_iff, needsLocation_iff hread.1 htyped.1]
    rw [List.find?_cons, List.find?_cons, hitem]
    cases needsLocation item with
    | true => exact congrArg some hread.1.symm
    | false => exact ih htyped.2

end Stimulus

/-! ### Without caches -/

namespace Renderer

open Stimulus

variable {r : Renderer} {m : ImportMap}

/-- The imports of an application fail exactly if some entry is undecided. -/
theorem importText_eq_error_iff {a : Application} (hkind : r.kind = .stimulus a)
    {fault : RenderFault} : r.importText m = .error fault ↔
      ∃ e, m.entries.find? (Undecided ·) = some e ∧ fault = .noLocation e.name := by
  have hlines {name : String} : a.importLines m.entries = .error name ↔
      ∃ e, m.entries.find? (Undecided ·) = some e ∧ e.name = name := by
    rw [← otherEntries_eq_error_iff, Application.importLines]
    cases otherEntries m.entries <;> simp [bind, Except.bind, pure, Except.pure]
  cases h : a.importLines m.entries with
  | ok lines =>
    simp only [importText, hkind, h]
    constructor
    · rintro ⟨⟩
    · rintro ⟨e, he, -⟩
      exact absurd (hlines.mpr ⟨e, he, rfl⟩) (by simp [h])
  | error name =>
    obtain ⟨e, he, rfl⟩ := hlines.mp h
    simp only [importText, hkind, h, he, Option.some.injEq, Except.error.injEq]
    constructor
    · rintro rfl
      exact ⟨e, rfl, rfl⟩
    · rintro ⟨_, rfl, rfl⟩
      rfl

/-- So they do not fail if every entry is decided. -/
theorem exists_importText {a : Application} (hkind : r.kind = .stimulus a)
    (h : ∀ e ∈ m.entries, ¬ Undecided e) : ∃ text, r.importText m = .ok text := by
  cases htext : r.importText m with
  | ok text => exact ⟨text, rfl⟩
  | error fault =>
    obtain ⟨e, he, -⟩ := (importText_eq_error_iff hkind).mp htext
    have hundecided : Undecided e := by simpa using List.find?_some he
    exact absurd hundecided (h e (List.mem_of_find?_eq_some he))

/-- Rules whose module patterns have groups always find something in the block. -/
theorem exists_ownFindings (hrules : ∀ a, r.analyzer = some a → a.rules.Grouped) :
    ∃ found, r.ownFindings = .ok found := by
  cases ha : r.analyzer with
  | none => exact ⟨{}, by rw [ownFindings, ha]⟩
  | some a =>
    obtain ⟨found, hfound⟩ := Analyzer.exists_finds (hrules a ha) r.block
    exact ⟨found, ownFindings_of_finds ha hfound⟩

/-- Where the imports fail, the script does. -/
theorem scriptText_of_error {fault : RenderFault} (h : r.importText m = .error fault) :
    r.scriptText m = .error fault := by
  rw [scriptText, contentText, h]
  rfl

/-- So does the script with warnings, unless the analysis of the block does before. -/
theorem warnedText_of_error {fault : RenderFault} {found : Findings}
    (hown : r.ownFindings = .ok found) (h : r.importText m = .error fault) :
    r.warnedText m = .error fault := by
  rw [warnedText, warningText, hown, h]
  rfl

/-- So an undecided entry keeps an application from being rendered where nothing is kept. -/
theorem run_of_undecided {a : Application} (hkind : r.kind = .stimulus a)
    (hrules : ∀ a, r.analyzer = some a → a.rules.Grouped) {e : Entry}
    (he : m.entries.find? (Undecided ·) = some e) {s : Store} (hs : s.Cold) :
    ((r.render m).run s).1 = .error (.noLocation e.name) ∧
      ((r.renderWithWarnings m).run s).1 = .error (.noLocation e.name) := by
  have himports := (importText_eq_error_iff hkind).mpr ⟨e, he, rfl⟩
  obtain ⟨found, hown⟩ := exists_ownFindings hrules
  constructor
  · rw [← scriptText_of_error himports]
    exact (Rendering.ensures_render ⟨r, m⟩ s (hs.holds _)).2
  · rw [← warnedText_of_error hown himports]
    exact Rendering.run_renderWithWarnings_of_cold ⟨r, m⟩ hs

end Renderer

/-! ### From caches -/

/-- What belongs into the partitions of scripts and of the analysis: texts, findings, and lists of
specifiers. -/
structure Store.Proper (name key : String) (kept : Artifact) : Prop where
  textual : Textual name key kept
  findings : name = Partition.dependencies.name → ∃ found, kept = .findings found
  specifiers : name = Partition.existingImports.name → ∃ names, kept = .data (.texts names)

/-- A partition that is not used for scripts may keep anything as far as they are concerned. -/
private theorem textual_of_notMem {p : Partition} (hp : ∀ used ∈ Renderer.partitions,
    p.name ≠ used.name) (key : String) (kept : Artifact) : Textual p.name key kept :=
  fun used hused hname ↦ absurd hname (hp used hused)

theorem proper_text {p : Partition} (hp : p ∈ Renderer.partitions) (key text : String) :
    Proper p.name key (.data (.text text)) := by
  have hne : ∀ p ∈ Renderer.partitions, p.name ≠ Partition.dependencies.name ∧
      p.name ≠ Partition.existingImports.name := by decide
  exact ⟨fun _ _ _ ↦ ⟨text, rfl⟩, fun hname ↦ absurd hname (hne p hp).1,
    fun hname ↦ absurd hname (hne p hp).2⟩

theorem proper_findings (key : String) (found : Findings) :
    Proper Partition.dependencies.name key (.findings found) :=
  ⟨textual_of_notMem (by decide) _ _, fun _ ↦ ⟨found, rfl⟩, fun hname ↦ absurd hname (by decide)⟩

theorem proper_specifiers (key : String) (names : List String) :
    Proper Partition.existingImports.name key (.data (.texts names)) :=
  ⟨textual_of_notMem (by decide) _ _, fun hname ↦ absurd hname (by decide), fun _ ↦ ⟨names, rfl⟩⟩

/-- No request leaves anything else there. -/
theorem Rendering.keeps_proper (d : Rendering) (q : Request) : Keeps (Holds Proper) (q.run d) := by
  apply q.keeps_of_answers
  case htext => exact fun p hp key text ↦ proper_text hp key text
  case hfindings => exact fun a found _ _ ↦ proper_findings _ found
  case hspecifiers => exact fun a _ ↦ proper_specifiers _ _

/-- A value that is a text. -/
def Value.IsText (v : Value) : Prop := ∃ text, v = .text text

namespace Renderer

variable {r : Renderer} {m : ImportMap}

/-- A kept text is a text, if its computation does not fail. -/
theorem ensures_keptText_isText {p : Partition} (hp : p ∈ partitions) {parts : List String}
    {text : Shared String} (htext : Ensures (Holds Proper) text (Gives fun _ ↦ True)) :
    Ensures (Holds Proper) (keptText p parts text) (Gives Value.IsText) := by
  refine Rendering.ensures_keptText (fun kept hkept ↦ ?_) (htext.mono ?_)
  · obtain ⟨t, rfl⟩ := hkept.textual p hp rfl
    exact ⟨_, rfl, t, rfl⟩
  · rintro _ ⟨t, rfl, -⟩
    exact ⟨fun _ _ ↦ proper_text hp _ _, fun fault hfault ↦ absurd hfault (by simp)⟩

/-- The imports are a text, if they do not fail without caches. -/
theorem ensures_imports_isText (h : ∃ text, r.importText m = .ok text) :
    Ensures (Holds Proper) (r.imports m) (Gives Value.IsText) := by
  obtain ⟨text, htext⟩ := h
  refine ensures_keptText_isText (by decide) ?_
  rw [htext]
  exact .gives_pure trivial

/-- The body always is. -/
theorem ensures_body_isText (r : Renderer) (m : ImportMap) :
    Ensures (Holds Proper) (r.body m) (Gives Value.IsText) := by
  have hprocessed : Ensures (Holds Proper) (r.processed m) (Gives Value.IsText) :=
    ensures_keptText_isText (by decide) (.gives_pure trivial)
  refine hprocessed.bind_gives ?_
  rintro _ ⟨text, rfl⟩
  rw [surround_text]
  exact .gives_pure ⟨_, rfl⟩

/-- A script can be rendered, if its imports do not fail without caches. -/
theorem ensures_render_gives (h : ∃ text, r.importText m = .ok text) :
    Ensures (Holds Proper) (r.render m) (Gives fun _ ↦ True) := by
  have hcontent : Ensures (Holds Proper) (r.content m) (Gives Value.IsText) := by
    refine ensures_keptText_isText (by decide) ?_
    refine (ensures_imports_isText h).bind_gives ?_
    rintro _ ⟨imports, rfl⟩
    refine (ensures_body_isText r m).bind_gives ?_
    rintro _ ⟨body, rfl⟩
    exact Rendering.ensures_ofResult ⟨_, joinParts_text [imports, body], trivial⟩
  rw [render]
  refine hcontent.bind_gives ?_
  rintro _ ⟨content, rfl⟩
  exact .gives_pure trivial

/-- Rules whose module patterns have groups always find something to answer. -/
theorem ensures_findings_gives (hrules : ∀ a, r.analyzer = some a → a.rules.Grouped) :
    Ensures (Holds Proper) r.findings (Gives fun _ ↦ True) := by
  rw [findings]
  cases ha : r.analyzer with
  | none => exact .gives_pure trivial
  | some a =>
    exact a.ensures_analyze (hrules a ha) (fun hkept ↦ hkept.findings rfl) proper_findings r.block

/-- The specifiers of a block are kept as a list of texts, so they can all be members of a set. -/
theorem ensures_existingImports_gives (r : Renderer) :
    Ensures (Holds Proper) r.existingImports (Gives fun _ ↦ True) := by
  rw [existingImports]
  cases r.analyzer with
  | none => exact .gives_pure trivial
  | some a =>
    refine (a.ensures_existingImports (fun hkept ↦ hkept.specifiers rfl) proper_specifiers
      r.block).bind_gives ?_
    rintro _ ⟨names, rfl⟩
    have hitems : (Value.texts names).elements? = some (names.map .text) := rfl
    have hkeys : (names.map Value.text).all (·.isKey) = true := by simp [Value.isKey]
    simp only [hitems, hkeys, if_true]
    exact .gives_pure trivial

/-- What is missing can always be told by such rules. -/
theorem ensures_missing_gives (hrules : ∀ a, r.analyzer = some a → a.rules.Grouped)
    (m : ImportMap) : Ensures (Holds Proper) (r.missing m) (Gives fun _ ↦ True) := by
  rw [missing]
  refine (ensures_findings_gives hrules).bind_gives fun found _ ↦ ?_
  split
  · exact .gives_pure trivial
  · have hprovided : Ensures (Holds Proper) (r.provided m) (Gives fun _ ↦ True) :=
      (ensures_existingImports_gives r).bind_gives fun names _ ↦ .gives_pure trivial
    exact hprovided.bind_gives fun provided _ ↦ .gives_pure trivial

/-- So can a script with warnings be rendered, if its imports do not fail without caches. -/
theorem ensures_renderWithWarnings_gives (hrules : ∀ a, r.analyzer = some a → a.rules.Grouped)
    (h : ∃ text, r.importText m = .ok text) :
    Ensures (Holds Proper) (r.renderWithWarnings m) (Gives fun _ ↦ True) := by
  rw [renderWithWarnings]
  refine (ensures_missing_gives hrules m).bind_gives fun missing _ ↦ ?_
  refine (ensures_imports_isText h).bind_gives ?_
  rintro _ ⟨imports, rfl⟩
  refine Ensures.bind_gives (p := fun _ ↦ True) (Rendering.ensures_ofResult
    ⟨_, joinFilled_text "\n" [imports, _], trivial⟩) fun head _ ↦ ?_
  refine (ensures_body_isText r m).bind_gives ?_
  rintro _ ⟨body, rfl⟩
  refine Ensures.bind_gives (p := fun _ ↦ True) (Rendering.ensures_ofResult
    ⟨_, joinParts_text [head, body], trivial⟩) fun content _ ↦ ?_
  exact .gives_pure trivial

end Renderer

end ModuleScript
