import ModuleScript.Proofs.Rules.Documents
import ModuleScript.Proofs.Rules.Fates

/-!
# Nothing in rule files disappears

Where there are lists for all that is listed, loading gives the fates of the entries in the order of
the files, and nothing else. It can only fail at a number that is too long to be written.
-/

namespace ModuleScript

/-! ### Lists and dictionaries -/

namespace Value

variable {v : Value}

theorem isEmpty_resolveItems (find? : Nat → Option Value) (items : List Value) :
    (resolveItems find? items).isEmpty = items.isEmpty := by
  cases items <;> rfl

theorem isEmpty_resolvePairs (find? : Nat → Option Value) (pairs : List (Value × Value)) :
    (resolvePairs find? pairs).isEmpty = pairs.isEmpty := by
  cases pairs <;> rfl

/-- A value that is untied counts as before, unless there is still a knot or a label in front. -/
theorem isTruthy_untied (hknot : ∀ label body, v.untied ≠ knot label body)
    (hagain : ∀ label, v.untied ≠ again label) : v.untied.isTruthy = v.isTruthy := by
  cases v with
  | knot label body =>
    cases body with
    | knot inner rest => exact absurd rfl (hknot inner _)
    | again other =>
      have hresolved : (knot label (again other)).untied =
          if other = label then knot label (again other) else again other := by
        simp only [untied, resolveLabel, resolve]
        split <;> rfl
      by_cases hsame : other = label
      · exact absurd (hresolved.trans (if_pos hsame)) (hknot label _)
      · exact absurd (hresolved.trans (if_neg hsame)) (hagain other)
    | list items => exact congrArg not (isEmpty_resolveItems _ items)
    | set items => exact congrArg not (isEmpty_resolveItems _ items)
    | dict pairs => exact congrArg not (isEmpty_resolvePairs _ pairs)
    | _ => rfl
  | _ => rfl

/-- Whether a value is a list or null. -/
def isListOrNull (v : Value) : Bool :=
  match v.untied with
  | null | list _ => true
  | _ => false

end Value

namespace RuleSet

section

variable {v : Value}

theorem itemsIn_of_untied_list {items : List Value} (h : v.untied = .list items) :
    itemsIn v = items := by
  have htrue : v.isTruthy = !items.isEmpty := by
    rw [← Value.isTruthy_untied (by simp [h]) (by simp [h]), h]
    rfl
  rw [itemsIn, htrue, Value.elements?, h]
  cases items <;> rfl

/-- A list has items, and null counts as false. -/
theorem not_hasNoItems_of_isListOrNull (h : v.isListOrNull = true) : ¬ HasNoItems v := by
  unfold HasNoItems Value.elements?
  rw [Value.isListOrNull] at h
  cases huntied : v.untied with
  | list items => simp
  | null =>
    rw [← Value.isTruthy_untied (by simp [huntied]) (by simp [huntied]), huntied]
    simp [Value.isTruthy]
  | _ => simp [huntied] at h

theorem moduleFields?_of_untied_dict {fields : List (Value × Value)}
    (h : v.untied = .dict fields) : moduleFields? v = some fields := by
  have htrue : v.isTruthy = !fields.isEmpty := by
    rw [← Value.isTruthy_untied (by simp [h]) (by simp [h]), h]
    rfl
  rw [moduleFields?, Value.orElse, htrue]
  cases fields with
  | nil => rfl
  | cons field rest =>
    show v.pairs? = some (field :: rest)
    rw [Value.pairs?, h]

/-- Items that are listed break only with one of their own faults. -/
theorem ItemsBreak.exists_item {breaks : Value → FileFault → Prop} {fault : FileFault}
    (h : ItemsBreak v breaks fault) (hlist : v.isListOrNull = true) :
    ∃ item ∈ itemsIn v, breaks item fault := by
  rcases h with ⟨hno, -⟩ | ⟨before, item, after, hitems, -, hbreaks⟩
  · exact absurd hno (not_hasNoItems_of_isListOrNull hlist)
  · refine ⟨item, ?_, hbreaks⟩
    rw [hitems]
    exact List.mem_append_right _ List.mem_cons_self

end

variable (r : Readers)

/-! ### Documents of lists -/

/-- Two documents with a list of libraries and a mapping of modules, in which patterns and excluded
names are listed or null, and patterns are within the limits. -/
structure WellShaped (libraries modules : Value) (items : List Value)
    (fields : List (Value × Value)) : Prop where
  libraries : libraries.untied = .list items
  modules : modules.untied = .dict fields
  libraryPatterns : ∀ item ∈ items, ∀ name patterns,
    libraryFields? item = some (name, patterns) → patterns.isListOrNull = true
  modulePatterns : (fieldOf "patterns" fields).isListOrNull = true
  excluded : (fieldOf "excluded_globals" fields).isListOrNull = true
  limits : ∀ e ∈ entriesIn items fields, e.isWithinLimits r = true

/-- The items and fields of two documents of this shape. -/
def shape? (libraries modules : Value) : Option (List Value × List (Value × Value)) :=
  match libraries.untied, modules.untied with
  | .list items, .dict fields =>
    if items.all (fun item ↦ (libraryFields? item).all (·.2.isListOrNull)) &&
        (fieldOf "patterns" fields).isListOrNull &&
        (fieldOf "excluded_globals" fields).isListOrNull &&
        (entriesIn items fields).all (Entry.isWithinLimits r) then some (items, fields)
    else none
  | _, _ => none

/-- All that has to be written of two documents can be: no number in it is too long. -/
def CanBeWritten (items : List Value) (fields : List (Value × Value)) : Prop :=
  (∀ e ∈ entriesIn items fields, e.isWritable r = true) ∧
    ∀ name ∈ itemsIn (fieldOf "excluded_globals" fields), name.isWritable = true

instance (items : List Value) (fields : List (Value × Value)) :
    Decidable (CanBeWritten r items fields) :=
  inferInstanceAs (Decidable (_ ∧ _))

namespace WellShaped

variable {r : Readers} {libraries modules : Value} {items : List Value}
  {fields : List (Value × Value)}

theorem of_shape? (h : shape? r libraries modules = some (items, fields)) :
    WellShaped r libraries modules items fields := by
  rw [shape?] at h
  split at h
  next found values hlibraries hmodules =>
    split at h
    next hall =>
      obtain ⟨rfl, rfl⟩ : found = items ∧ values = fields := by simpa using h
      simp only [Bool.and_eq_true, List.all_eq_true, Option.all_eq_true] at hall
      obtain ⟨⟨⟨hlists, hpatterns⟩, hexcluded⟩, hlimits⟩ := hall
      exact ⟨hlibraries, hmodules, fun item hitem name patterns ↦ hlists item hitem _, hpatterns,
        hexcluded, hlimits⟩
    next => exact absurd h (by simp)
  next => exact absurd h (by simp)

theorem itemsIn_eq (h : WellShaped r libraries modules items fields) :
    itemsIn libraries = items := itemsIn_of_untied_list h.libraries

theorem moduleFields?_eq (h : WellShaped r libraries modules items fields) :
    moduleFields? modules = some fields := moduleFields?_of_untied_dict h.modules

theorem isListOrNull_libraries (h : WellShaped r libraries modules items fields) :
    libraries.isListOrNull = true := by
  rw [Value.isListOrNull, h.libraries]

/-- The patterns of a library are within the limits. -/
theorem not_patternBreaks_library (h : WellShaped r libraries modules items fields)
    {item name patterns raw : Value} (hitem : item ∈ items)
    (hfields : libraryFields? item = some (name, patterns)) (hraw : raw ∈ itemsIn patterns)
    (fault : FileFault) : ¬ PatternBreaks r raw fault := by
  have hentry : Entry.ofLibrary name (libraryLocation item) raw ∈ entriesOf item := by
    rw [entriesOf, hfields]
    exact List.mem_map_of_mem hraw
  exact (patternIsWithinLimits_iff r).mp
    ((forall_mem_entriesIn.mp h.limits).1 item hitem _ hentry) fault

/-- The patterns of modules are within the limits. -/
theorem not_patternBreaks_modules (h : WellShaped r libraries modules items fields) {raw : Value}
    (hraw : raw ∈ itemsIn (fieldOf "patterns" fields)) (fault : FileFault) :
    ¬ PatternBreaks r raw fault :=
  (patternIsWithinLimits_iff r).mp ((forall_mem_entriesIn.mp h.limits).2 raw hraw) fault

/-- An item does not break if all that has to be written of it can be. -/
theorem libraryLoads_iff (h : WellShaped r libraries modules items fields) {item : Value}
    (hitem : item ∈ items) :
    LibraryLoads r item ↔ ∀ e ∈ entriesOf item, e.isWritable r = true := by
  cases hfields : libraryFields? item with
  | none => simp [LibraryLoads, entriesOf, hfields, Entry.isWritable]
  | some library =>
    have hlist := not_hasNoItems_of_isListOrNull (h.libraryPatterns item hitem _ _ hfields)
    have hlimits (raw : Value) (hraw : raw ∈ itemsIn library.2) :
        ∀ fault, ¬ PatternBreaks r raw fault :=
      h.not_patternBreaks_library hitem hfields hraw
    simp only [LibraryLoads, entriesOf, hfields, List.forall_mem_map, Entry.isWritable,
      Bool.or_eq_true, Option.isNone_iff_eq_none]
    constructor
    · rintro ⟨-, hnames⟩ raw hraw
      by_cases hcompiled : compiled? r raw = none
      · exact .inl hcompiled
      · exact .inr ((hnames raw hraw).2 (Option.isSome_iff_ne_none.mpr hcompiled))
    · intro hnames
      refine ⟨hlist, fun raw hraw ↦ ⟨hlimits raw hraw, fun hcompiled ↦ ?_⟩⟩
      exact (hnames raw hraw).resolve_left (Option.isSome_iff_ne_none.mp hcompiled)

/-- Documents of lists are loadable if all that has to be written of them can be. -/
theorem loadable_iff (h : WellShaped r libraries modules items fields) :
    Loadable r libraries modules ↔ CanBeWritten r items fields := by
  have hwritable : CanBeWritten r items fields ↔ (∀ item ∈ items, LibraryLoads r item) ∧
      ∀ name ∈ itemsIn (fieldOf "excluded_globals" fields), name.isWritable = true := by
    apply and_congr_left
    intro _
    have hmodules : ∀ raw ∈ itemsIn (fieldOf "patterns" fields),
        (Entry.ofModules raw).isWritable r = true := fun _ _ ↦ rfl
    rw [forall_mem_entriesIn, and_iff_left hmodules]
    exact forall₂_congr fun item hitem ↦ (h.libraryLoads_iff hitem).symm
  rw [hwritable]
  constructor
  · intro hload
    refine ⟨fun item hitem ↦ hload.items item ?_, (hload.excluded fields h.moduleFields?_eq).2⟩
    rw [h.itemsIn_eq]
    exact hitem
  · rintro ⟨hitems, hnames⟩
    have hfields {found : List (Value × Value)} (hfound : moduleFields? modules = some found) :
        found = fields := Option.some.inj (hfound.symm.trans h.moduleFields?_eq)
    refine ⟨not_hasNoItems_of_isListOrNull h.isListOrNull_libraries, ?_, ?_, ?_⟩
    · rw [h.itemsIn_eq]
      exact hitems
    · intro found hfound
      rw [hfields hfound]
      exact ⟨not_hasNoItems_of_isListOrNull h.modulePatterns,
        fun raw hraw ↦ h.not_patternBreaks_modules hraw⟩
    · intro found hfound
      rw [hfields hfound]
      exact ⟨not_hasNoItems_of_isListOrNull h.excluded, hnames⟩

/-- Documents of lists break only with a number that is too long to be written. -/
theorem eq_written_of_break (h : WellShaped r libraries modules items fields) {fault : FileFault}
    (hbreak : DocumentsBreak r libraries modules fault) : fault = .number .written := by
  rcases hbreak with hlibraries | ⟨-, found, hfound, hmodules⟩
  · obtain ⟨item, hitem, hbreaks⟩ := ItemsBreak.exists_item hlibraries h.isListOrNull_libraries
    rw [h.itemsIn_eq] at hitem
    rw [LibraryBreaks] at hbreaks
    cases hfields : libraryFields? item with
    | none =>
      rw [hfields] at hbreaks
      exact hbreaks.2
    | some library =>
      rw [hfields] at hbreaks
      obtain ⟨raw, hraw, hpattern | hname⟩ :=
        ItemsBreak.exists_item hbreaks (h.libraryPatterns item hitem _ _ hfields)
      · exact absurd hpattern (h.not_patternBreaks_library hitem hfields hraw fault)
      · exact hname.2.2
  · obtain rfl := Option.some.inj (hfound.symm.trans h.moduleFields?_eq)
    rcases hmodules with hpatterns | ⟨-, hnames⟩
    · obtain ⟨raw, hraw, hpattern⟩ := ItemsBreak.exists_item hpatterns h.modulePatterns
      exact absurd hpattern (h.not_patternBreaks_modules hraw fault)
    · obtain ⟨name, -, hname⟩ := ItemsBreak.exists_item hnames h.excluded
      exact hname.2

end WellShaped

/-! ### Nothing disappears -/

variable {r} {librariesFile modulesFile : List UInt8} {libraries modules : Value}
  {items : List Value} {fields : List (Value × Value)}

/-- Documents of lists load as the fates of their entries, in the order of the files: each entry is
used as one rule or skipped with one warning. What is skipped are the items that are no libraries,
the patterns of libraries that are not read, and the patterns of modules that are not read or have
no group. All this is so unless a number has to be written that is too long: then loading fails. -/
theorem every_entry_is_used_or_skipped (directory : String)
    (hlibraries : documentOf r (some librariesFile) = .ok libraries)
    (hmodules : documentOf r (some modulesFile) = .ok modules)
    (h : WellShaped r libraries modules items fields) :
    (CanBeWritten r items fields → ∃ rules warnings,
      load? r directory (some librariesFile) (some modulesFile) = .ok (rules, warnings) ∧
      rules.libraries = (fates r directory items fields).filterMap Fate.library? ∧
      rules.modulePatterns = (fates r directory items fields).filterMap Fate.modules? ∧
      warnings = (fates r directory items fields).filterMap Fate.skipped? ∧
      rules.excluded = (itemsIn (fieldOf "excluded_globals" fields)).map Value.form ∧
      rules.libraries.length + rules.modulePatterns.length + warnings.length =
        (entriesIn items fields).length ∧
      warnings.length = items.countP (fun item ↦ (libraryFields? item).isNone) +
        (libraryPatterns items).countP (fun raw ↦ (compiled? r raw).isNone) +
        (itemsIn (fieldOf "patterns" fields)).countP fun raw ↦ (modulePattern? r raw).isNone) ∧
    (¬ CanBeWritten r items fields →
      load? r directory (some librariesFile) (some modulesFile) = .error (.number .written)) := by
  constructor
  · intro hwritable
    have hload : load? r directory (some librariesFile) (some modulesFile) =
        .ok (rulesIn r libraries modules,
          warningsOf r directory (some librariesFile) (some modulesFile) libraries modules) :=
      load?_of_loadable hlibraries hmodules (h.loadable_iff.mpr hwritable)
    have hrules : rulesIn r libraries modules =
        { libraries := (fates r directory items fields).filterMap Fate.library?
          modulePatterns := (fates r directory items fields).filterMap Fate.modules?
          excluded := (itemsIn (fieldOf "excluded_globals" fields)).map Value.form } := by
      rw [filterMap_library?_fates, filterMap_modules?_fates, rulesIn, h.itemsIn_eq,
        rawModulePatterns, rawExcluded, h.moduleFields?_eq]
      rfl
    have hwarnings :
        warningsOf r directory (some librariesFile) (some modulesFile) libraries modules =
          (fates r directory items fields).filterMap Fate.skipped? := by
      rw [filterMap_skipped?_fates, warningsOf, h.itemsIn_eq, moduleWarnings, h.moduleFields?_eq,
        rawModulePatterns, h.moduleFields?_eq]
      rfl
    rw [hrules, hwarnings] at hload
    refine ⟨_, _, hload, rfl, rfl, rfl, rfl, ?_, length_skipped_fates r directory items fields⟩
    rw [Fate.length_add_length, fates, List.length_map]
  · intro hnot
    obtain ⟨fault, hbreak⟩ := Classical.not_forall_not.mp
      (mt (forall_not_documentsBreak_iff.trans h.loadable_iff).mp hnot)
    rw [load?_of_break ((filesBreak_iff hlibraries hmodules).mpr hbreak),
      h.eq_written_of_break hbreak]

/-- A pattern that is repeated is used twice. Beside it a pattern does not compile, an item is no
library, a library has no patterns, and a pattern of modules has no group. -/
theorem six_entries_give_three_rules_and_three_warnings :
    ∃ rules warnings,
      load? .builtIn "rules" (some (Text.Utf8.encode
          "- name: a\n  patterns: [x, '(', x]\n- 7\n- name: b\n  patterns:\n"))
        (some (Text.Utf8.encode "patterns: ['(y)', z]\n")) = .ok (rules, warnings) ∧
      rules.libraries.map (·.name.toText?) = [some "a", some "a"] ∧
      rules.modulePatterns.map (·.source.toText?) = [some "(y)"] ∧
      warnings.map Warning.message =
        ["Skipping invalid pattern '(' in rules/external_libraries.yaml: " ++
           "missing ), unterminated subpattern at position 0",
         "Skipping invalid library rule in rules/external_libraries.yaml: 7",
         "Skipping local pattern without a capture group in rules/local_modules.yaml: 'z'"] ∧
      rules.libraries.length + rules.modulePatterns.length + warnings.length = 6 := by
  let r : Readers := .builtIn
  have hlibraries : documentOf r (some (Text.Utf8.encode
      "- name: a\n  patterns: [x, '(', x]\n- 7\n- name: b\n  patterns:\n")) = _ :=
    documentOf_eq_ok _ (by decide +kernel)
  have hmodules : documentOf r (some (Text.Utf8.encode "patterns: ['(y)', z]\n")) = _ :=
    documentOf_eq_ok _ (by decide +kernel)
  have hshape : (shape? r
      (valueOf r (some (Text.Utf8.encode
        "- name: a\n  patterns: [x, '(', x]\n- 7\n- name: b\n  patterns:\n")))
      (valueOf r (some (Text.Utf8.encode "patterns: ['(y)', z]\n")))).any (fun (items, fields) ↦
        decide (CanBeWritten r items fields) && (entriesIn items fields).length == 6) = true := by
    decide +kernel
  have hread : (match load? r "rules" (some (Text.Utf8.encode
        "- name: a\n  patterns: [x, '(', x]\n- 7\n- name: b\n  patterns:\n"))
      (some (Text.Utf8.encode "patterns: ['(y)', z]\n")) with
      | .ok (rules, warnings) =>
        rules.libraries.map (·.name.toText?) == [some "a", some "a"] &&
          rules.modulePatterns.map (·.source.toText?) == [some "(y)"] &&
          warnings.map Warning.message ==
            ["Skipping invalid pattern '(' in rules/external_libraries.yaml: " ++
               "missing ), unterminated subpattern at position 0",
             "Skipping invalid library rule in rules/external_libraries.yaml: 7",
             "Skipping local pattern without a capture group in rules/local_modules.yaml: 'z'"]
      | .error _ => false) = true := by decide +kernel
  simp only [Option.any_eq_true, Bool.and_eq_true, decide_eq_true_eq, beq_iff_eq] at hshape
  obtain ⟨⟨items, fields⟩, hshape, hwritable, hsix⟩ := hshape
  obtain ⟨rules, warnings, hload, -, -, -, -, hlength, -⟩ :=
    (every_entry_is_used_or_skipped "rules" hlibraries hmodules (.of_shape? hshape)).1 hwritable
  simp only [hload, Bool.and_eq_true, beq_iff_eq] at hread
  obtain ⟨⟨hnames, hsources⟩, hmessages⟩ := hread
  exact ⟨rules, warnings, hload, hnames, hsources, hmessages, hlength.trans hsix⟩

end RuleSet

end ModuleScript
