import Mathlib.Data.List.Basic
import ModuleScript.Proofs.Rules.Loaded

/-!
# Entries of rule files and their fates

The entries of rule files are the patterns of the libraries, whatever stands among the libraries and
is none, and the patterns of the modules. Every entry has one fate: it is used as one rule, or it is
skipped with one warning. The rules and warnings of a document are the fates of its entries.
-/

namespace ModuleScript.RuleSet

variable (r : Readers)

/-! ### Libraries and patterns as they are read -/

/-- A written pattern is a text that is not empty. -/
theorem writtenPattern?_eq_some_iff {raw source : Value} :
    writtenPattern? raw = some source ↔
      source = raw ∧ ∃ points, raw.points? = some points ∧ points ≠ [] := by
  rw [eq_comm (a := source)]
  cases raw with
  | text written => by_cases hempty : written = "" <;> simp [writtenPattern?, Value.points?, hempty]
  | broken written =>
    obtain ⟨n, hn, -⟩ := written.isBroken
    simp [writtenPattern?, Value.points?, List.ne_nil_of_mem hn]
  | _ => simp [writtenPattern?, Value.points?]

/-- A value is read as a pattern if it is a text that is not empty and compiles. -/
theorem compiled?_eq_some_iff {raw : Value} {p : LoosePattern} :
    compiled? r raw = some p ↔ (∃ points, raw.points? = some points ∧ points ≠ []) ∧
      ∃ pattern, r.pattern raw = .ok pattern ∧ p = { source := raw, pattern } := by
  have hread (pattern : Pattern) :
      (r.pattern raw).toOption = some pattern ↔ r.pattern raw = .ok pattern := by
    cases r.pattern raw <;> simp [Except.toOption]
  simp only [compiled?, Option.bind_eq_some_iff, Option.map_eq_some_iff,
    writtenPattern?_eq_some_iff]
  constructor
  · rintro ⟨_, ⟨rfl, htext⟩, pattern, hpattern, rfl⟩
    exact ⟨htext, pattern, (hread pattern).mp hpattern, rfl⟩
  · rintro ⟨htext, pattern, hpattern, rfl⟩
    exact ⟨raw, ⟨rfl, htext⟩, pattern, (hread pattern).mpr hpattern, rfl⟩

/-- Whether a value is no pattern beyond a limit. -/
def patternIsWithinLimits (raw : Value) : Bool :=
  match (writtenPattern? raw).map r.pattern with
  | some (.ok _) | some (.error (.malformed _)) | none => true
  | some (.error _) => false

theorem patternIsWithinLimits_iff {raw : Value} :
    patternIsWithinLimits r raw = true ↔ ∀ fault, ¬ PatternBreaks r raw fault := by
  unfold patternIsWithinLimits PatternBreaks
  cases writtenPattern? raw with
  | none => simp
  | some source =>
    cases hread : r.pattern source with
    | ok pattern => simp [hread]
    | error fault => cases fault <;> simp [hread]

/-! ### Entries and their fates -/

/-- Something in the rule files that should give one rule. -/
inductive Entry where
  /-- What stands among the libraries without a name or without patterns. -/
  | misfit (item : Value)
  /-- A pattern of a library, with the library's name and location. -/
  | ofLibrary (name location raw : Value)
  /-- A pattern of modules. -/
  | ofModules (raw : Value)

/-- What becomes of an entry. -/
inductive Fate where
  | library (rule : LooseRule)
  | modules (pattern : LoosePattern)
  | skipped (warning : Warning)

namespace Fate

def library? : Fate → Option LooseRule
  | library rule => some rule
  | _ => none

def modules? : Fate → Option LoosePattern
  | modules pattern => some pattern
  | _ => none

def skipped? : Fate → Option Warning
  | skipped warning => some warning
  | _ => none

/-- No fate is counted twice, and none is left out. -/
theorem length_add_length (fates : List Fate) :
    (fates.filterMap library?).length + (fates.filterMap modules?).length +
      (fates.filterMap skipped?).length = fates.length := by
  induction fates with
  | nil => rfl
  | cons fate rest ih =>
    cases fate <;> simp only [library?, modules?, skipped?, List.filterMap_cons, List.length_cons,
      ← ih] <;> omega

end Fate

/-- The file of the libraries. -/
def librariesPath (directory : String) : String := s!"{directory}/external_libraries.yaml"

/-- The file of the modules. -/
def modulesPath (directory : String) : String := s!"{directory}/local_modules.yaml"

/-- The pattern that a value is read as, or else what is said of it. -/
def readAs (path : String) (raw : Value) : Except Warning LoosePattern :=
  match writtenPattern? raw with
  | none => .error (.emptyPattern path)
  | some source =>
    match r.pattern source with
    | .ok pattern => .ok { source, pattern }
    | .error fault => .error (.badPattern source path fault.message)

theorem toOption_readAs (path : String) (raw : Value) :
    (readAs r path raw).toOption = compiled? r raw := by
  rw [readAs, compiled?]
  cases writtenPattern? raw with
  | none => rfl
  | some source =>
    rw [Option.bind_some]
    cases hread : r.pattern source <;> simp [hread, Except.toOption]

/-- What is said of a value is said once. -/
theorem patternWarnings_eq (path : String) (raw : Value) :
    patternWarnings r path raw = match readAs r path raw with
      | .ok _ => []
      | .error warning => [warning] := by
  rw [readAs, patternWarnings]
  cases writtenPattern? raw with
  | none => rfl
  | some source => cases hread : r.pattern source <;> simp [hread]

namespace Entry

variable (directory : String)

/-- The fate of an entry of the files in a directory. -/
def fate : Entry → Fate
  | misfit item => .skipped (.badLibrary item (librariesPath directory))
  | ofLibrary name location raw =>
    match readAs r (librariesPath directory) raw with
    | .ok pattern => .library { name := name.form, pattern, location }
    | .error warning => .skipped warning
  | ofModules raw =>
    match readAs r (modulesPath directory) raw with
    | .ok pattern =>
      if pattern.pattern.groups = 0 then .skipped (.noGroup raw (modulesPath directory))
      else .modules pattern
    | .error warning => .skipped warning

theorem library?_fate_ofLibrary (name location raw : Value) :
    ((ofLibrary name location raw).fate r directory).library? = ruleOf? r name location raw := by
  rw [fate, ruleOf?, ← toOption_readAs r (librariesPath directory)]
  cases readAs r (librariesPath directory) raw <;> rfl

theorem modules?_fate_ofLibrary (name location raw : Value) :
    ((ofLibrary name location raw).fate r directory).modules? = none := by
  rw [fate]
  cases readAs r (librariesPath directory) raw <;> rfl

theorem skipped?_fate_ofLibrary (name location raw : Value) :
    ((ofLibrary name location raw).fate r directory).skipped?.toList =
      patternWarnings r (librariesPath directory) raw := by
  rw [fate, patternWarnings_eq]
  cases readAs r (librariesPath directory) raw <;> rfl

theorem library?_fate_ofModules (raw : Value) :
    ((ofModules raw).fate r directory).library? = none := by
  rw [fate]
  cases readAs r (modulesPath directory) raw with
  | error => rfl
  | ok pattern =>
    by_cases h : pattern.pattern.groups = 0 <;> simp [h, Fate.library?]

theorem modules?_fate_ofModules (raw : Value) :
    ((ofModules raw).fate r directory).modules? = modulePattern? r raw := by
  rw [fate, modulePattern?, ← toOption_readAs r (modulesPath directory)]
  cases readAs r (modulesPath directory) raw with
  | error => rfl
  | ok pattern =>
    by_cases h : pattern.pattern.groups = 0 <;>
      simp [h, Except.toOption, Option.filter, Fate.modules?]

theorem skipped?_fate_ofModules (raw : Value) :
    ((ofModules raw).fate r directory).skipped?.toList =
      modulePatternWarnings r (modulesPath directory) raw := by
  rw [fate, modulePatternWarnings, patternWarnings_eq, ← toOption_readAs r (modulesPath directory)]
  cases readAs r (modulesPath directory) raw with
  | error => rfl
  | ok pattern =>
    by_cases h : pattern.pattern.groups = 0 <;>
      simp [h, Except.toOption, Option.filter, Fate.skipped?]

/-- An entry gives a rule of a library if it is a text that is not empty and compiles. -/
theorem fate_eq_library_iff {e : Entry} {rule : LooseRule} :
    e.fate r directory = .library rule ↔
      ∃ name location raw points pattern, e = .ofLibrary name location raw ∧
        raw.points? = some points ∧ points ≠ [] ∧ r.pattern raw = .ok pattern ∧
        rule = { name := name.form, pattern := { source := raw, pattern }, location } := by
  have hlibrary : e.fate r directory = .library rule ↔
      (e.fate r directory).library? = some rule := by
    cases e.fate r directory <;> simp [Fate.library?]
  rw [hlibrary]
  cases e with
  | misfit item => simp [fate, Fate.library?]
  | ofModules raw => simp [library?_fate_ofModules]
  | ofLibrary name location raw =>
    simp only [library?_fate_ofLibrary, ruleOf?, Option.map_eq_some_iff, compiled?_eq_some_iff,
      ofLibrary.injEq]
    constructor
    · rintro ⟨_, ⟨⟨points, hpoints, hne⟩, pattern, hread, rfl⟩, rfl⟩
      exact ⟨name, location, raw, points, pattern, ⟨rfl, rfl, rfl⟩, hpoints, hne, hread, rfl⟩
    · rintro ⟨_, _, _, points, pattern, ⟨rfl, rfl, rfl⟩, hpoints, hne, hread, rfl⟩
      exact ⟨_, ⟨⟨points, hpoints, hne⟩, pattern, hread, rfl⟩, rfl⟩

/-- An entry gives a pattern of modules if it also has a group. -/
theorem fate_eq_modules_iff {e : Entry} {p : LoosePattern} :
    e.fate r directory = .modules p ↔
      ∃ raw points pattern, e = .ofModules raw ∧ raw.points? = some points ∧ points ≠ [] ∧
        r.pattern raw = .ok pattern ∧ pattern.groups ≠ 0 ∧ p = { source := raw, pattern } := by
  have hmodules : e.fate r directory = .modules p ↔
      (e.fate r directory).modules? = some p := by
    cases e.fate r directory <;> simp [Fate.modules?]
  rw [hmodules]
  cases e with
  | misfit item => simp [fate, Fate.modules?]
  | ofLibrary name location raw => simp [modules?_fate_ofLibrary]
  | ofModules raw =>
    simp only [modules?_fate_ofModules, modulePattern?, Option.filter_eq_some_iff,
      compiled?_eq_some_iff, decide_eq_true_eq, ofModules.injEq]
    constructor
    · rintro ⟨⟨⟨points, hpoints, hne⟩, pattern, hread, rfl⟩, hgroups⟩
      exact ⟨raw, points, pattern, rfl, hpoints, hne, hread, hgroups, rfl⟩
    · rintro ⟨_, points, pattern, rfl, hpoints, hne, hread, hgroups, rfl⟩
      exact ⟨⟨⟨points, hpoints, hne⟩, pattern, hread, rfl⟩, hgroups⟩

/-- Whether an entry is skipped, whatever the warning says. -/
def isRejected : Entry → Bool
  | misfit _ => true
  | ofLibrary _ _ raw => (compiled? r raw).isNone
  | ofModules raw => (modulePattern? r raw).isNone

theorem isSome_skipped?_fate (e : Entry) :
    (e.fate r directory).skipped?.isSome = e.isRejected r := by
  cases e with
  | misfit item => rfl
  | ofLibrary name location raw =>
    rw [fate, isRejected, ← toOption_readAs r (librariesPath directory)]
    cases readAs r (librariesPath directory) raw <;> rfl
  | ofModules raw =>
    rw [isRejected, ← modules?_fate_ofModules r directory]
    have hlibrary := library?_fate_ofModules r directory raw
    cases hfate : (ofModules raw).fate r directory with
    | library rule => simp [hfate, Fate.library?] at hlibrary
    | _ => rfl

/-- Whether all that has to be written of an entry can be: what is warned about as a whole, and the
name of a library that is used. -/
def isWritable : Entry → Bool
  | misfit item => item.isWritable
  | ofLibrary name _ raw => (compiled? r raw).isNone || name.isWritable
  | ofModules _ => true

/-- Whether what an entry has for a pattern is within the limits of patterns. -/
def isWithinLimits : Entry → Bool
  | misfit _ => true
  | ofLibrary _ _ raw | ofModules raw => patternIsWithinLimits r raw

end Entry

/-! ### The entries of two documents -/

/-- The entries of one item of the libraries. -/
def entriesOf (item : Value) : List Entry :=
  match libraryFields? item with
  | some (name, patterns) => (itemsIn patterns).map (.ofLibrary name (libraryLocation item))
  | none => [.misfit item]

/-- The entries of the items of the libraries and of the fields of the modules, in order. -/
def entriesIn (items : List Value) (fields : List (Value × Value)) : List Entry :=
  items.flatMap entriesOf ++ (itemsIn (fieldOf "patterns" fields)).map .ofModules

/-- The patterns of all items that are libraries. -/
def libraryPatterns (items : List Value) : List Value :=
  (items.filterMap libraryFields?).flatMap fun library ↦ itemsIn library.2

theorem forall_mem_entriesIn {items : List Value} {fields : List (Value × Value)}
    {p : Entry → Prop} :
    (∀ e ∈ entriesIn items fields, p e) ↔ (∀ item ∈ items, ∀ e ∈ entriesOf item, p e) ∧
      ∀ raw ∈ itemsIn (fieldOf "patterns" fields), p (.ofModules raw) := by
  rw [entriesIn, List.forall_mem_append, List.forall_mem_flatMap, List.forall_mem_map]

section

variable (directory : String) (items : List Value) (fields : List (Value × Value))

/-- What becomes of all entries. -/
def fates : List Fate := (entriesIn items fields).map (Entry.fate r directory)

/-- What is taken from the fates is taken from the entries one by one. -/
theorem filterMap_fates {α : Type} (f : Fate → Option α) :
    (fates r directory items fields).filterMap f =
      (items.flatMap fun item ↦ (entriesOf item).filterMap fun e ↦ f (e.fate r directory)) ++
        (itemsIn (fieldOf "patterns" fields)).filterMap fun raw ↦
          f ((Entry.ofModules raw).fate r directory) := by
  rw [fates, entriesIn, List.filterMap_map, List.filterMap_append, List.filterMap_flatMap,
    List.filterMap_map]
  rfl

theorem filterMap_library?_fates :
    (fates r directory items fields).filterMap Fate.library? = items.flatMap (rulesOf r) := by
  have hitem (item : Value) :
      (entriesOf item).filterMap (fun e ↦ (e.fate r directory).library?) = rulesOf r item := by
    rw [entriesOf, rulesOf]
    cases libraryFields? item with
    | none => rfl
    | some library =>
      simp only [List.filterMap_map, Function.comp_def, Entry.library?_fate_ofLibrary]
  simp only [filterMap_fates, hitem, Entry.library?_fate_ofModules, List.filterMap_none,
    List.append_nil]

theorem filterMap_modules?_fates :
    (fates r directory items fields).filterMap Fate.modules? =
      (itemsIn (fieldOf "patterns" fields)).filterMap (modulePattern? r) := by
  have hitem (item : Value) :
      (entriesOf item).filterMap (fun e ↦ (e.fate r directory).modules?) = [] := by
    rw [entriesOf]
    cases libraryFields? item with
    | none => rfl
    | some library => simp [Entry.modules?_fate_ofLibrary]
  have hitems : items.flatMap (fun _ ↦ ([] : List LoosePattern)) = [] :=
    List.flatMap_eq_nil_iff.mpr fun _ _ ↦ rfl
  simp only [filterMap_fates, hitem, hitems, Entry.modules?_fate_ofModules, List.nil_append]

theorem filterMap_skipped?_fates :
    (fates r directory items fields).filterMap Fate.skipped? =
      items.flatMap (libraryWarnings r (librariesPath directory)) ++
        (itemsIn (fieldOf "patterns" fields)).flatMap
          (modulePatternWarnings r (modulesPath directory)) := by
  have hitem (item : Value) :
      (entriesOf item).filterMap (fun e ↦ (e.fate r directory).skipped?) =
        libraryWarnings r (librariesPath directory) item := by
    rw [entriesOf, libraryWarnings]
    cases libraryFields? item with
    | none => rfl
    | some library =>
      simp only [List.filterMap_eq_flatMap_toList, List.flatMap_map,
        Entry.skipped?_fate_ofLibrary]
  rw [filterMap_fates, List.filterMap_eq_flatMap_toList]
  simp only [hitem, Entry.skipped?_fate_ofModules]

/-- As many entries are skipped as there are items that are no libraries, patterns of libraries that
are not read, and patterns of modules that are not. -/
theorem length_skipped_fates :
    ((fates r directory items fields).filterMap Fate.skipped?).length =
      items.countP (fun item ↦ (libraryFields? item).isNone) +
        (libraryPatterns items).countP (fun raw ↦ (compiled? r raw).isNone) +
        (itemsIn (fieldOf "patterns" fields)).countP fun raw ↦ (modulePattern? r raw).isNone := by
  have hitems : (items.flatMap entriesOf).countP (Entry.isRejected r) =
      items.countP (fun item ↦ (libraryFields? item).isNone) +
        (libraryPatterns items).countP fun raw ↦ (compiled? r raw).isNone := by
    induction items with
    | nil => rfl
    | cons item rest ih =>
      rw [List.flatMap_cons, List.countP_append, ih, entriesOf, libraryPatterns, libraryPatterns]
      cases hfields : libraryFields? item with
      | none =>
        have hone : [Entry.misfit item].countP (Entry.isRejected r) = 1 := rfl
        rw [hone, List.filterMap_cons_none hfields, List.countP_cons_of_pos (by simp [hfields])]
        omega
      | some library =>
        rw [List.countP_cons_of_neg (by simp [hfields]), List.filterMap_cons_some hfields,
          List.flatMap_cons, List.countP_append, List.countP_map]
        show (itemsIn library.2).countP (fun raw ↦ (compiled? r raw).isNone) + _ = _
        omega
  rw [fates, List.filterMap_map, List.length_filterMap_eq_countP]
  simp only [Function.comp_def, Entry.isSome_skipped?_fate]
  rw [entriesIn, List.countP_append, hitems, List.countP_map]
  rfl

end

end ModuleScript.RuleSet
