import ModuleScript.Proofs.Rules.Loaded

/-!
# What two rule files give

The documents of the libraries and of the modules are read one after the other. They break the
loading with the first fault in them; if they are loadable, they give a rule set and warnings.
-/

namespace ModuleScript.RuleSet

variable (r : Readers)

/-! ### Both files -/

/-- The document of a file, null if the file is missing. -/
def documentOf : Option (List UInt8) → Except FileFault Value
  | none => .ok .null
  | some bytes => parseFile r bytes

/-- What is said of a file before it is read. -/
def fileWarnings (path : String) : Option (List UInt8) → List Warning
  | none => [.fileMissing path]
  | some _ => []

/-- The document of a file as far as there is one. -/
def valueOf (file : Option (List UInt8)) : Value := (documentOf r file).toOption.getD .null

theorem step_readFile (path : String) (file : Option (List UInt8)) :
    Step (readFile r path file) (documentOf r file = .error ·) (valueOf r file)
      (fileWarnings path file) := by
  cases file with
  | none =>
    exact ((Step.warn (.fileMissing path)).map fun _ ↦ Value.null).congr fun fault ↦ by
      simp [documentOf]
  | some bytes =>
    change Step (liftM (parseFile r bytes) : Loading Value) (parseFile r bytes = .error ·)
      ((parseFile r bytes).toOption.getD .null) []
    cases parseFile r bytes with
    | ok v => exact (Step.pure v).congr fun fault ↦ by simp
    | error fault =>
      exact (Step.throw fault Value.null []).congr fun other ↦ by simp [eq_comm]

/-- The documents break the loading at the libraries, or else at the modules. -/
def DocumentsBreak (libraries modules : Value) (fault : FileFault) : Prop :=
  LibrariesBreak r libraries fault ∨
    (∀ f, ¬ LibrariesBreak r libraries f) ∧ ModulesBreak r modules fault

/-- The rules in two documents. -/
def rulesIn (libraries modules : Value) : LooseRuleSet where
  libraries := (itemsIn libraries).flatMap (rulesOf r)
  modulePatterns := (rawModulePatterns modules).filterMap (modulePattern? r)
  excluded := (rawExcluded modules).map Value.form

variable {directory : String} {librariesFile modulesFile : Option (List UInt8)}
  {libraries modules : Value}

/-- What is said of two files, the libraries first. -/
def warningsOf (directory : String) (librariesFile modulesFile : Option (List UInt8))
    (libraries modules : Value) : List Warning :=
  let librariesPath := s!"{directory}/external_libraries.yaml"
  let modulesPath := s!"{directory}/local_modules.yaml"
  fileWarnings librariesPath librariesFile ++
    ((itemsIn libraries).flatMap (libraryWarnings r librariesPath) ++
      (fileWarnings modulesPath modulesFile ++ moduleWarnings r modulesPath modules))

/-- The files break the loading where one has no document or the documents do, whichever comes
first. -/
def FilesBreak (librariesFile modulesFile : Option (List UInt8)) (fault : FileFault) : Prop :=
  documentOf r librariesFile = .error fault ∨ (∀ f, documentOf r librariesFile ≠ .error f) ∧
    (LibrariesBreak r (valueOf r librariesFile) fault ∨
      (∀ f, ¬ LibrariesBreak r (valueOf r librariesFile) f) ∧
        (documentOf r modulesFile = .error fault ∨ (∀ f, documentOf r modulesFile ≠ .error f) ∧
          ModulesBreak r (valueOf r modulesFile) fault))

theorem step_loading (directory : String) (librariesFile modulesFile : Option (List UInt8)) :
    Step (loading r directory librariesFile modulesFile) (FilesBreak r librariesFile modulesFile)
      (rulesIn r (valueOf r librariesFile) (valueOf r modulesFile))
      (warningsOf r directory librariesFile modulesFile (valueOf r librariesFile)
        (valueOf r modulesFile)) := by
  have hmods := (step_readModules r s!"{directory}/local_modules.yaml" (valueOf r modulesFile)).map
    fun found ↦ ({ libraries := (itemsIn (valueOf r librariesFile)).flatMap (rulesOf r)
                   modulePatterns := found.1, excluded := found.2 } : LooseRuleSet)
  refine (step_readFile r _ librariesFile).bind ?_ (fun fault ↦ Iff.rfl) rfl
  refine (step_readLibraries r _ _).bind ?_ (fun fault ↦ Iff.rfl) rfl
  exact (step_readFile r _ modulesFile).bind hmods (fun fault ↦ Iff.rfl) rfl

variable {r}

theorem valueOf_eq {file : Option (List UInt8)} {v : Value} (h : documentOf r file = .ok v) :
    valueOf r file = v := by
  rw [valueOf, h]
  rfl

theorem documentOf_eq_ok (file : Option (List UInt8)) (h : (documentOf r file).isOk = true) :
    documentOf r file = .ok (valueOf r file) := by
  cases hread : documentOf r file with
  | error fault => simp [hread, Except.isOk, Except.toBool] at h
  | ok v => rw [valueOf_eq hread]

/-- Files with documents break where the documents do. -/
theorem filesBreak_iff (hlibraries : documentOf r librariesFile = .ok libraries)
    (hmodules : documentOf r modulesFile = .ok modules) {fault : FileFault} :
    FilesBreak r librariesFile modulesFile fault ↔ DocumentsBreak r libraries modules fault := by
  simp [FilesBreak, DocumentsBreak, valueOf_eq hlibraries, valueOf_eq hmodules, hlibraries,
    hmodules]

/-! ### How loading ends -/

/-- The three kinds of faults that documents can have. -/
def IsDocumentFault (fault : FileFault) : Prop :=
  fault = .noItems ∨ (∃ limit, fault = .pattern limit) ∨
    fault = .number .written

/-- A value that is needed as a list breaks with one of these if its items do. -/
private theorem ItemsBreak.isDocumentFault {v : Value} {breaks : Value → FileFault → Prop}
    {fault : FileFault} (hitems : ∀ item f, breaks item f → IsDocumentFault f)
    (h : ItemsBreak v breaks fault) : IsDocumentFault fault := by
  rcases h with ⟨-, rfl⟩ | ⟨_, item, _, -, -, hitem⟩
  · exact .inl rfl
  · exact hitems item fault hitem

private theorem PatternBreaks.isDocumentFault {raw : Value} {fault : FileFault}
    (h : PatternBreaks r raw fault) : IsDocumentFault fault := by
  obtain ⟨source, limit, -, -, rfl⟩ := h
  exact .inr (.inl ⟨limit, rfl⟩)

private theorem TooLong.isDocumentFault {v : Value} {fault : FileFault} (h : TooLong v fault) :
    IsDocumentFault fault := .inr (.inr h.2)

/-- Documents break with no other faults. -/
theorem DocumentsBreak.isDocumentFault {fault : FileFault}
    (h : DocumentsBreak r libraries modules fault) : IsDocumentFault fault := by
  have hrule (name raw : Value) (f : FileFault) (h : RuleBreaks r name raw f) : IsDocumentFault f :=
    h.elim (·.isDocumentFault) fun hname ↦ hname.2.isDocumentFault
  rcases h with hlibraries | ⟨-, fields, -, hpatterns | ⟨-, hnames⟩⟩
  · refine ItemsBreak.isDocumentFault (fun item f hitem ↦ ?_) hlibraries
    rw [LibraryBreaks] at hitem
    split at hitem
    · exact ItemsBreak.isDocumentFault (hrule _) hitem
    · exact hitem.isDocumentFault
  · exact ItemsBreak.isDocumentFault (fun raw f ↦ PatternBreaks.isDocumentFault) hpatterns
  · exact ItemsBreak.isDocumentFault (fun v f ↦ TooLong.isDocumentFault) hnames

variable (r) in
/-- An item of the libraries that does not break: a library whose patterns are a list and within the
limits, with a name that can be written if one of them is used, or something else that can be
written. -/
def LibraryLoads (item : Value) : Prop :=
  match libraryFields? item with
  | some (name, patterns) => ¬ HasNoItems patterns ∧ ∀ raw ∈ itemsIn patterns,
      (∀ f, ¬ PatternBreaks r raw f) ∧ ((compiled? r raw).isSome = true → name.isWritable = true)
  | none => item.isWritable = true

theorem forall_not_libraryBreaks_iff {item : Value} :
    (∀ f, ¬ LibraryBreaks r item f) ↔ LibraryLoads r item := by
  cases hfields : libraryFields? item with
  | none =>
    simp only [LibraryBreaks, LibraryLoads, hfields]
    exact forall_not_tooLong_iff
  | some fields =>
    simp only [LibraryBreaks, LibraryLoads, hfields, forall_not_itemsBreak_iff, RuleBreaks, not_or,
      forall_and, not_and, ← forall_not_tooLong_iff]
    exact and_congr_right fun _ ↦ and_congr_right fun _ ↦
      ⟨fun h raw hraw hsome f ↦ h raw hraw f hsome, fun h raw hraw f hsome ↦ h raw hraw hsome f⟩

variable (r) in
/-- Documents that do not break: there are items wherever they are needed, written patterns are
within the limits, and what is written can be. -/
structure Loadable (libraries modules : Value) : Prop where
  listed : ¬ HasNoItems libraries
  items : ∀ item ∈ itemsIn libraries, LibraryLoads r item
  patterns : ∀ fields, moduleFields? modules = some fields →
    ¬ HasNoItems (fieldOf "patterns" fields) ∧
      ∀ raw ∈ itemsIn (fieldOf "patterns" fields), ∀ f, ¬ PatternBreaks r raw f
  excluded : ∀ fields, moduleFields? modules = some fields →
    ¬ HasNoItems (fieldOf "excluded_globals" fields) ∧
      ∀ name ∈ itemsIn (fieldOf "excluded_globals" fields), name.isWritable = true

theorem forall_not_documentsBreak_iff :
    (∀ f, ¬ DocumentsBreak r libraries modules f) ↔ Loadable r libraries modules := by
  have hlibraries : (∀ f, ¬ LibrariesBreak r libraries f) ↔
      ¬ HasNoItems libraries ∧ ∀ item ∈ itemsIn libraries, LibraryLoads r item := by
    simp only [LibrariesBreak, forall_not_itemsBreak_iff, forall_not_libraryBreaks_iff]
  have hnames (fields : List (Value × Value)) :
      (∀ f, ¬ ItemsBreak (fieldOf "excluded_globals" fields) TooLong f) ↔
        ¬ HasNoItems (fieldOf "excluded_globals" fields) ∧
          ∀ name ∈ itemsIn (fieldOf "excluded_globals" fields), name.isWritable = true := by
    simp only [forall_not_itemsBreak_iff, forall_not_tooLong_iff]
  constructor
  · intro h
    obtain ⟨hlisted, hitems⟩ := hlibraries.mp fun f hf ↦ h f (.inl hf)
    have hmodules (f : FileFault) : ¬ ModulesBreak r modules f :=
      fun hf ↦ h f (.inr ⟨hlibraries.mpr ⟨hlisted, hitems⟩, hf⟩)
    have hpatterns {fields} (hfields : moduleFields? modules = some fields) :
        ∀ f, ¬ ItemsBreak (fieldOf "patterns" fields) (PatternBreaks r) f :=
      fun f hf ↦ hmodules f ⟨fields, hfields, .inl hf⟩
    exact ⟨hlisted, hitems, fun fields hfields ↦ forall_not_itemsBreak_iff.mp (hpatterns hfields),
      fun fields hfields ↦ (hnames fields).mp
        fun f hf ↦ hmodules f ⟨fields, hfields, .inr ⟨hpatterns hfields, hf⟩⟩⟩
  · rintro ⟨hlisted, hitems, hpatterns, hexcluded⟩ f (hf | ⟨-, fields, hfields, hf | ⟨-, hf⟩⟩)
    · exact hlibraries.mpr ⟨hlisted, hitems⟩ f hf
    · exact forall_not_itemsBreak_iff.mpr (hpatterns fields hfields) f hf
    · exact (hnames fields).mpr (hexcluded fields hfields) f hf

/-- Loading fails with the fault of the files. -/
theorem load?_of_break {fault : FileFault} (h : FilesBreak r librariesFile modulesFile fault) :
    load? r directory librariesFile modulesFile = .error fault := by
  rw [load?, (step_loading r directory librariesFile modulesFile).error fault h]
  rfl

/-- Loadable documents give the rules in them, and warnings. -/
theorem load?_of_loadable (hlibraries : documentOf r librariesFile = .ok libraries)
    (hmodules : documentOf r modulesFile = .ok modules) (h : Loadable r libraries modules) :
    load? r directory librariesFile modulesFile =
      .ok (rulesIn r libraries modules,
        warningsOf r directory librariesFile modulesFile libraries modules) := by
  have hnone (fault : FileFault) : ¬ FilesBreak r librariesFile modulesFile fault :=
    (not_congr (filesBreak_iff hlibraries hmodules)).mpr (forall_not_documentsBreak_iff.mpr h fault)
  rw [load?, (step_loading r directory librariesFile modulesFile).ok hnone, valueOf_eq hlibraries,
    valueOf_eq hmodules]
  simp [bind, Except.bind, pure, Except.pure]

/-- What is loaded comes from two documents that are loadable. -/
theorem exists_documents_of_load? {loaded : LooseRuleSet × List Warning}
    (h : load? r directory librariesFile modulesFile = .ok loaded) :
    ∃ libraries modules, documentOf r librariesFile = .ok libraries ∧
      documentOf r modulesFile = .ok modules ∧ Loadable r libraries modules ∧
      loaded = (rulesIn r libraries modules,
        warningsOf r directory librariesFile modulesFile libraries modules) := by
  have hnone (fault : FileFault) : ¬ FilesBreak r librariesFile modulesFile fault := by
    intro hfault
    rw [load?_of_break hfault] at h
    exact absurd h (by simp)
  cases hlibraries : documentOf r librariesFile with
  | error fault => exact absurd (.inl hlibraries) (hnone fault)
  | ok libraries =>
    cases hmodules : documentOf r modulesFile with
    | error fault =>
      by_cases hbreak : ∃ other, LibrariesBreak r (valueOf r librariesFile) other
      · obtain ⟨other, hother⟩ := hbreak
        exact absurd (.inr ⟨by simp [hlibraries], .inl hother⟩) (hnone other)
      · exact absurd (.inr ⟨by simp [hlibraries], .inr ⟨not_exists.mp hbreak, .inl hmodules⟩⟩)
          (hnone fault)
    | ok modules =>
      have hloadable : Loadable r libraries modules := forall_not_documentsBreak_iff.mp fun fault ↦
        (not_congr (filesBreak_iff hlibraries hmodules)).mp (hnone fault)
      rw [load?_of_loadable hlibraries hmodules hloadable, Except.ok.injEq] at h
      exact ⟨libraries, modules, rfl, rfl, hloadable, h.symm⟩

/-- Two files whose documents can be read, a missing one counting as null, fail to load exactly with
the fault that breaks the documents: a value has no items where a list is needed, a pattern goes
beyond a limit, or a number is too long to be written. They load exactly if they are loadable, as
the rules in them, and what cannot be used is skipped with a warning, in the order of the files. -/
theorem documents_load_unless_they_break (hlibraries : documentOf r librariesFile = .ok libraries)
    (hmodules : documentOf r modulesFile = .ok modules) :
    (∀ fault, load? r directory librariesFile modulesFile = .error fault ↔
      DocumentsBreak r libraries modules fault) ∧
    (∀ fault, DocumentsBreak r libraries modules fault → IsDocumentFault fault) ∧
    ∀ loaded, load? r directory librariesFile modulesFile = .ok loaded ↔
      Loadable r libraries modules ∧ loaded = (rulesIn r libraries modules,
        warningsOf r directory librariesFile modulesFile libraries modules) := by
  have hbreak {fault : FileFault} (h : DocumentsBreak r libraries modules fault) :
      load? r directory librariesFile modulesFile = .error fault :=
    load?_of_break ((filesBreak_iff hlibraries hmodules).mpr h)
  refine ⟨fun fault ↦ ⟨fun h ↦ ?_, hbreak⟩, fun fault ↦ DocumentsBreak.isDocumentFault,
    fun loaded ↦ ⟨fun h ↦ ?_, ?_⟩⟩
  · by_cases hloadable : Loadable r libraries modules
    · rw [load?_of_loadable hlibraries hmodules hloadable] at h
      exact absurd h (by simp)
    · obtain ⟨other, hother⟩ :=
        Classical.not_forall_not.mp (mt forall_not_documentsBreak_iff.mp hloadable)
      rw [hbreak hother, Except.error.injEq] at h
      exact h ▸ hother
  · obtain ⟨_, _, hlibraries', hmodules', hloadable, rfl⟩ := exists_documents_of_load? h
    obtain rfl := Except.ok.inj (hlibraries.symm.trans hlibraries')
    obtain rfl := Except.ok.inj (hmodules.symm.trans hmodules')
    exact ⟨hloadable, rfl⟩
  · rintro ⟨hloadable, rfl⟩
    exact load?_of_loadable hlibraries hmodules hloadable

/-- A number where the patterns of a library should be listed keeps both files from loading. -/
theorem number_as_patterns_breaks_loading :
    ∃ librariesFile modulesFile : List UInt8,
      librariesFile = Text.Utf8.encode "- name: a\n  patterns: 5\n" ∧
      modulesFile = Text.Utf8.encode "\x7b\x7d" ∧
      load? .builtIn "rules" (some librariesFile) (some modulesFile) = .error .noItems := by
  refine ⟨_, _, rfl, rfl, ?_⟩
  let r : Readers := .builtIn
  have hlibraries : documentOf r (some (Text.Utf8.encode "- name: a\n  patterns: 5\n")) = _ :=
    documentOf_eq_ok _ (by decide +kernel)
  have hmodules : documentOf r (some (Text.Utf8.encode "\x7b\x7d")) = _ :=
    documentOf_eq_ok _ (by decide +kernel)
  -- The first item has a name, and patterns that are true but have no items.
  have hfirst : ((itemsIn (valueOf r (some (Text.Utf8.encode
      "- name: a\n  patterns: 5\n")))).head?.bind libraryFields?).any
      (fun fields ↦ fields.2.isTruthy && fields.2.elements?.isNone) = true := by decide +kernel
  simp only [Option.any_eq_true, Option.bind_eq_some_iff, Bool.and_eq_true,
    Option.isNone_iff_eq_none] at hfirst
  obtain ⟨⟨name, patterns⟩, ⟨item, hhead, hfields⟩, hpatterns⟩ := hfirst
  obtain ⟨rest, hitems⟩ := List.head?_eq_some_iff.mp hhead
  have hbreaks : LibraryBreaks r item .noItems := by
    rw [LibraryBreaks, hfields]
    exact .inl ⟨hpatterns, rfl⟩
  obtain ⟨herror, -⟩ := documents_load_unless_they_break hlibraries hmodules
  exact (herror .noItems).mpr (.inl (.inr ⟨[], item, rest, hitems, by simp, hbreaks⟩))

end ModuleScript.RuleSet
