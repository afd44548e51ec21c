import ModuleScript.Proofs.Rules.Loading

/-!
# What one document gives

Each part of a rule file is told by what it breaks with, and by the rules and warnings it gives if
it does not break. A part breaks in three ways only: a value that counts as true has no items where
a list is needed, a written pattern goes beyond a limit, or a number is too long to be written.
Everything else that cannot be used is skipped with a warning. What reads documents and compiles
patterns is left open.
-/

namespace ModuleScript.RuleSet

/-! ### Values that are needed as lists or written -/

/-- A value that counts as true and has no items. -/
def HasNoItems (v : Value) : Prop := v.isTruthy = true ∧ v.elements? = none

/-- The items of a value as far as it has any. -/
def itemsIn (v : Value) : List Value := if v.isTruthy then v.elements?.getD [] else []

/-- A value with a number in it that is too long to be written. -/
def TooLong (v : Value) (fault : FileFault) : Prop :=
  v.isWritable = false ∧ fault = .number .written

/-- A value has no items where some are needed, or one of them breaks. -/
def ItemsBreak (v : Value) (breaks : Value → FileFault → Prop) (fault : FileFault) : Prop :=
  (HasNoItems v ∧ fault = .noItems) ∨ FirstBreak breaks (itemsIn v) fault

theorem forall_not_tooLong_iff {v : Value} : (∀ f, ¬ TooLong v f) ↔ v.isWritable = true := by
  simp [TooLong]

/-- Nothing breaks if there are items where they are needed and none of them breaks. -/
theorem forall_not_itemsBreak_iff {v : Value} {breaks : Value → FileFault → Prop} :
    (∀ f, ¬ ItemsBreak v breaks f) ↔
      ¬ HasNoItems v ∧ ∀ item ∈ itemsIn v, ∀ f, ¬ breaks item f := by
  simp only [ItemsBreak, not_or, forall_and, ← forall_not_firstBreak_iff]
  exact and_congr_left fun _ ↦ ⟨fun h hno ↦ h .noItems ⟨hno, rfl⟩, fun h f hno ↦ h hno.1⟩

theorem step_itemsOf (v : Value) :
    Step (itemsOf v) (fun fault ↦ HasNoItems v ∧ fault = .noItems) (itemsIn v) [] := by
  rw [itemsOf, itemsIn]
  cases htrue : v.isTruthy with
  | false => exact (Step.pure []).congr fun fault ↦ by simp [HasNoItems, htrue]
  | true =>
    cases hitems : v.elements? with
    | none =>
      exact (Step.throw .noItems [] []).congr fun fault ↦ by simp [HasNoItems, htrue, hitems]
    | some items => exact (Step.pure items).congr fun fault ↦ by simp [HasNoItems, hitems]

theorem step_formOf (v : Value) : Step (formOf v) (TooLong v) v.form [] := by
  rw [formOf, Value.form?]
  cases hwritable : v.isWritable with
  | false => exact (Step.throw _ v.form []).congr fun fault ↦ by simp [TooLong, hwritable]
  | true => exact (Step.pure v.form).congr fun fault ↦ by simp [TooLong, hwritable]

/-- The items of a value are read one by one. -/
theorem step_items {α : Type} {f : Value → Loading α} {breaks : Value → FileFault → Prop}
    {result : Value → α} {given : Value → List Warning}
    (h : ∀ item, Step (f item) (breaks item) (result item) (given item)) (v : Value) :
    Step (itemsOf v >>= fun items ↦ items.mapM f) (ItemsBreak v breaks)
      ((itemsIn v).map result) ((itemsIn v).flatMap given) := by
  refine (step_itemsOf v).bind (.mapM h _) (fun fault ↦ or_congr_right ?_) rfl
  have hnone (hno : HasNoItems v) : itemsIn v = [] := by
    rw [itemsIn, if_pos hno.1, hno.2, Option.getD_none]
  constructor
  · intro hfirst
    refine ⟨fun other hother ↦ ?_, hfirst⟩
    rw [hnone hother.1] at hfirst
    exact not_firstBreak_nil hfirst
  · exact And.right

/-- The value of a field, null without it. -/
def fieldOf (name : String) (fields : List (Value × Value)) : Value :=
  (Value.get? name fields).getD .null

variable (r : Readers)

/-! ### Patterns -/

/-- The pattern that a value is read as, if any. -/
def compiled? (raw : Value) : Option LoosePattern :=
  (writtenPattern? raw).bind fun source ↦
    (r.pattern source).toOption.map fun pattern ↦ { source, pattern }

/-- What is said of a value that is not read as a pattern. -/
def patternWarnings (path : String) (raw : Value) : List Warning :=
  match writtenPattern? raw with
  | none => [.emptyPattern path]
  | some source =>
    match r.pattern source with
    | .ok _ => []
    | .error fault => [.badPattern source path fault.message]

/-- A written pattern that goes beyond a limit. -/
def PatternBreaks (raw : Value) (fault : FileFault) : Prop :=
  ∃ source limit, writtenPattern? raw = some source ∧
    r.pattern source = .error (.limit limit) ∧ fault = .pattern limit

variable {r} in
theorem not_patternBreaks_of_compiled {raw : Value} {p : LoosePattern}
    (h : compiled? r raw = some p) (fault : FileFault) : ¬ PatternBreaks r raw fault := by
  rintro ⟨source, limit, hsource, hlimit, -⟩
  rw [compiled?, hsource, Option.bind_some, hlimit] at h
  exact absurd h (by simp [Except.toOption])

theorem step_readPattern (path : String) (raw : Value) :
    Step (readPattern r path raw) (PatternBreaks r raw) (compiled? r raw)
      (patternWarnings r path raw) := by
  rw [readPattern, compiled?, patternWarnings]
  cases hsource : writtenPattern? raw with
  | none =>
    exact ((Step.warn (.emptyPattern path)).map fun _ ↦ none).congr fun fault ↦ by
      simp [PatternBreaks, hsource]
  | some source =>
    simp only [Option.bind_some]
    cases hread : r.pattern source with
    | ok pattern =>
      exact (Step.pure (some (LoosePattern.mk source pattern))).congr fun fault ↦ by
        simp [PatternBreaks, hsource, hread]
    | error fault =>
      cases fault with
      | malformed error =>
        exact ((Step.warn (.badPattern source path error)).map fun _ ↦ none).congr fun fault ↦ by
          simp [PatternBreaks, hsource, hread]
      | limit limit =>
        exact (Step.throw (.pattern limit) none _).congr fun fault ↦ by
          simp [PatternBreaks, hsource, hread]

/-! ### Libraries -/

/-- The name and the patterns of a library, if an item has both. -/
def libraryFields? (item : Value) : Option (Value × Value) :=
  let fields := item.pairs?.getD []
  match Value.get? "name" fields, Value.get? "patterns" fields with
  | some name, some patterns => some (name, patterns)
  | _, _ => none

/-- The location of a library, null without one. -/
def libraryLocation (item : Value) : Value := fieldOf "cdn_url" (item.pairs?.getD [])

/-- The rule of one pattern of a library. -/
def ruleOf? (name location raw : Value) : Option LooseRule :=
  (compiled? r raw).map fun pattern ↦ { name := name.form, pattern, location }

/-- A pattern breaks, or it does not and the name of its library does. -/
def RuleBreaks (name raw : Value) (fault : FileFault) : Prop :=
  PatternBreaks r raw fault ∨ (compiled? r raw).isSome = true ∧ TooLong name fault

theorem step_readRule (path : String) (name location raw : Value) :
    Step (readRule r path name location raw) (RuleBreaks r name raw) (ruleOf? r name location raw)
      (patternWarnings r path raw) := by
  have hpattern := step_readPattern r path raw
  rw [readRule, ruleOf?]
  cases hcompiled : compiled? r raw with
  | none =>
    rw [hcompiled] at hpattern
    exact hpattern.bind (.pure none) (fun fault ↦ by simp [RuleBreaks, hcompiled]) (by simp)
  | some pattern =>
    rw [hcompiled] at hpattern
    have hname := (step_formOf name).map fun name ↦
      some ({ name, pattern, location } : LooseRule)
    have hnone := not_patternBreaks_of_compiled hcompiled
    exact hpattern.bind hname (fun fault ↦ by simp [RuleBreaks, hcompiled, hnone]) (by simp)

/-- The rules of an item: one for each of its patterns that can be used. -/
def rulesOf (item : Value) : List LooseRule :=
  match libraryFields? item with
  | some (name, patterns) => (itemsIn patterns).filterMap (ruleOf? r name (libraryLocation item))
  | none => []

/-- What is said of an item: that it is no library, or what is said of its patterns. -/
def libraryWarnings (path : String) (item : Value) : List Warning :=
  match libraryFields? item with
  | some (_, patterns) => (itemsIn patterns).flatMap (patternWarnings r path)
  | none => [.badLibrary item path]

/-- A library breaks at its patterns. What is no library breaks if it cannot be written. -/
def LibraryBreaks (item : Value) (fault : FileFault) : Prop :=
  match libraryFields? item with
  | some (name, patterns) => ItemsBreak patterns (RuleBreaks r name) fault
  | none => TooLong item fault

theorem step_readLibrary (path : String) (item : Value) :
    Step (readLibrary r path item) (LibraryBreaks r item) (rulesOf r item)
      (libraryWarnings r path item) := by
  have hread : readLibrary r path item = match libraryFields? item with
      | some (name, patterns) => do
        return (← (← itemsOf patterns).mapM
          (readRule r path name (libraryLocation item))).filterMap id
      | none => do
        discard <| formOf item
        warn (.badLibrary item path)
        return [] := by
    rw [readLibrary, libraryFields?]
    dsimp only
    cases Value.get? "name" (item.pairs?.getD []) with
    | none => rfl
    | some name => cases Value.get? "patterns" (item.pairs?.getD []) <;> rfl
  rw [hread, rulesOf, libraryWarnings]
  cases hfields : libraryFields? item with
  | none =>
    have hwarned := (Step.warn (.badLibrary item path)).map fun _ ↦ ([] : List LooseRule)
    have hwritten : Step (discard (formOf item)) (TooLong item) () [] :=
      (step_formOf item).map fun _ ↦ ()
    exact hwritten.bind hwarned (fun fault ↦ by simp [LibraryBreaks, hfields]) (by simp)
  | some fields =>
    have hbreaks (fault : FileFault) :
        LibraryBreaks r item fault ↔ ItemsBreak fields.2 (RuleBreaks r fields.1) fault := by
      rw [LibraryBreaks, hfields]
    have hrules := (step_items (step_readRule r path fields.1 (libraryLocation item)) fields.2).map
      fun rules ↦ rules.filterMap id
    refine Step.congr ?_ hbreaks
    simpa [bind_assoc, List.filterMap_map] using hrules

/-- The document of libraries breaks at its items. -/
def LibrariesBreak (data : Value) : FileFault → Prop := ItemsBreak data (LibraryBreaks r)

theorem step_readLibraries (path : String) (data : Value) :
    Step (readLibraries r path data) (LibrariesBreak r data) ((itemsIn data).flatMap (rulesOf r))
      ((itemsIn data).flatMap (libraryWarnings r path)) := by
  have hrules := (step_items (step_readLibrary r path) data).map List.flatten
  rw [readLibraries]
  simpa [bind_assoc, List.flatMap_def, LibrariesBreak] using hrules

/-! ### Modules -/

/-- The pattern of a module that a value is read as, which has a group. -/
def modulePattern? (raw : Value) : Option LoosePattern :=
  (compiled? r raw).filter (·.pattern.groups ≠ 0)

/-- What is said of a value that is not read as the pattern of a module. -/
def modulePatternWarnings (path : String) (raw : Value) : List Warning :=
  patternWarnings r path raw ++
    (((compiled? r raw).filter (·.pattern.groups = 0)).map fun _ ↦
      Warning.noGroup raw path).toList

theorem step_readModulePattern (path : String) (raw : Value) :
    Step (readModulePattern r path raw) (PatternBreaks r raw) (modulePattern? r raw)
      (modulePatternWarnings r path raw) := by
  have hpattern := step_readPattern r path raw
  rw [readModulePattern, modulePattern?, modulePatternWarnings]
  cases hcompiled : compiled? r raw with
  | none =>
    rw [hcompiled] at hpattern
    exact hpattern.bind (.pure none) (fun fault ↦ by simp) rfl
  | some p =>
    rw [hcompiled] at hpattern
    have hend : Step (if p.pattern.groups = 0 then do
          warn (.noGroup raw path)
          return none
        else return some p) (fun _ ↦ False) ((some p).filter (·.pattern.groups ≠ 0))
        (((some p).filter (·.pattern.groups = 0)).map fun _ ↦
          Warning.noGroup raw path).toList := by
      by_cases hgroups : p.pattern.groups = 0
      · have hwarned := (Step.warn (.noGroup raw path)).map fun _ ↦ (none : Option LoosePattern)
        simpa [Option.filter, hgroups] using hwarned
      · simpa [Option.filter, hgroups] using Step.pure (some p)
    exact hpattern.bind hend (fun fault ↦ by simp) rfl

/-- The fields of the document of modules, one that counts as false having none. -/
def moduleFields? (data : Value) : Option (List (Value × Value)) := (data.orElse (.dict [])).pairs?

/-- The values from which the patterns of modules are read. -/
def rawModulePatterns (data : Value) : List Value :=
  ((moduleFields? data).map fun fields ↦ itemsIn (fieldOf "patterns" fields)).getD []

/-- The values that are written as excluded names. -/
def rawExcluded (data : Value) : List Value :=
  ((moduleFields? data).map fun fields ↦ itemsIn (fieldOf "excluded_globals" fields)).getD []

/-- What is said of the document of modules. -/
def moduleWarnings (path : String) (data : Value) : List Warning :=
  match moduleFields? data with
  | some _ => (rawModulePatterns data).flatMap (modulePatternWarnings r path)
  | none => [.badModules path]

/-- The document of modules breaks at its patterns, or at the names to be excluded. -/
def ModulesBreak (data : Value) (fault : FileFault) : Prop :=
  ∃ fields, moduleFields? data = some fields ∧
    (ItemsBreak (fieldOf "patterns" fields) (PatternBreaks r) fault ∨
      (∀ f, ¬ ItemsBreak (fieldOf "patterns" fields) (PatternBreaks r) f) ∧
        ItemsBreak (fieldOf "excluded_globals" fields) TooLong fault)

theorem step_readModules (path : String) (data : Value) :
    Step (readModules r path data) (ModulesBreak r data)
      ((rawModulePatterns data).filterMap (modulePattern? r), (rawExcluded data).map Value.form)
      (moduleWarnings r path data) := by
  rw [readModules, moduleWarnings, rawModulePatterns, rawExcluded]
  change Step (match moduleFields? data with | some fields => _ | none => _) _ _ _
  cases hfields : moduleFields? data with
  | none =>
    exact ((Step.warn (.badModules path)).map fun _ ↦ ([], [])).congr fun fault ↦ by
      simp [ModulesBreak, hfields]
  | some fields =>
    have hquiet (items : List Value) : items.flatMap (fun _ ↦ ([] : List Warning)) = [] :=
      List.flatMap_eq_nil_iff.mpr fun _ _ ↦ rfl
    have hpatterns := step_items (step_readModulePattern r path) (fieldOf "patterns" fields)
    have hnames := (step_items step_formOf (fieldOf "excluded_globals" fields)).map fun names ↦
      (((itemsIn (fieldOf "patterns" fields)).map (modulePattern? r)).filterMap id, names)
    rw [bind_assoc, hquiet] at hnames
    change Step (itemsOf (fieldOf "patterns" fields) >>= fun items ↦
      items.mapM (readModulePattern r path) >>= fun patterns ↦
        itemsOf (fieldOf "excluded_globals" fields) >>= fun excluded ↦
          excluded.mapM formOf >>= fun names ↦ Pure.pure (patterns.filterMap id, names)) _ _ _
    rw [← bind_assoc, ← Function.id_comp (modulePattern? r), ← List.filterMap_map]
    exact hpatterns.bind hnames (fun fault ↦ by simp [ModulesBreak, hfields]) (by simp)

end ModuleScript.RuleSet
