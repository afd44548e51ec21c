import ModuleScript.Render.Output

/-!
# Texts without caches

What a renderer and a map make of a block when nothing is kept anywhere: every part of a script is
a text, and only the imports can fail, for want of a location.
-/

namespace ModuleScript

namespace Stimulus

/-- The generated imports are those of the entries that do not load the package and those that
are written anew. -/
theorem Application.importLines_eq_ok_iff {a : Application} {entries : List Entry}
    {statements : List String} : a.importLines entries = .ok statements ↔
      ∃ others, otherEntries entries = .ok others ∧
        a.coreImport :: (others.map (Script.importStatement ·.name) ++
          a.reimported.map controllerImport) = statements := by
  rw [Application.importLines]
  cases otherEntries entries with
  | error name => simp [bind, Except.bind]
  | ok others => simp [bind, Except.bind, pure, Except.pure]

/-- The other entries are those that are known not to load the package, in order. -/
theorem otherEntries_eq {entries others : List Entry} (h : otherEntries entries = .ok others) :
    others = entries.filter fun e ↦ (isCoreEntry e).toOption = some false := by
  induction entries generalizing others with
  | nil =>
    obtain rfl : [] = others := Except.ok.inj h
    rfl
  | cons e rest ih =>
    rw [otherEntries] at h
    cases hcore : isCoreEntry e with
    | error name =>
      rw [hcore] at h
      exact absurd h (by simp [bind, Except.bind])
    | ok isCore =>
      cases hrest : otherEntries rest with
      | error name =>
        rw [hcore, hrest] at h
        exact absurd h (by simp [bind, Except.bind])
      | ok more =>
        rw [hcore, hrest] at h
        obtain rfl := Except.ok.inj h
        rw [List.filter_cons, hcore, ← ih hrest]
        cases isCore <;> rfl

theorem mem_otherEntries_iff {entries others : List Entry} (h : otherEntries entries = .ok others)
    {e : Entry} : e ∈ others ↔ e ∈ entries ∧ isCoreEntry e = .ok false := by
  rw [otherEntries_eq h, List.mem_filter]
  cases isCoreEntry e <;> simp [Except.toOption]

private theorem map_name_otherEntries_cons (e : Entry) (rest : List Entry) :
    (otherEntries (e :: rest)).map (·.map (·.name)) = (isCoreEntry e).bind fun isCore ↦
      ((otherEntries rest).map (·.map (·.name))).map fun names ↦
        if isCore then names else e.name :: names := by
  rw [otherEntries]
  cases isCoreEntry e with
  | error name => rfl
  | ok isCore =>
    cases otherEntries rest with
    | error name => rfl
    | ok others => cases isCore <;> rfl

/-- Of the other entries nothing but the names matters, and which entries they are. -/
private theorem map_name_otherEntries {es es' : List Entry}
    (hnames : es.map (·.name) = es'.map (·.name))
    (hcore : es.map isCoreEntry = es'.map isCoreEntry) :
    (otherEntries es).map (·.map (·.name)) = (otherEntries es').map (·.map (·.name)) := by
  induction es generalizing es' with
  | nil =>
    obtain rfl := List.map_eq_nil_iff.mp hnames.symm
    rfl
  | cons e es ih =>
    cases es' with
    | nil => exact absurd hnames (by simp)
    | cons e' es' =>
      obtain ⟨hname, hnames⟩ := List.cons.inj hnames
      obtain ⟨hcore, hcores⟩ := List.cons.inj hcore
      change e.name = e'.name at hname
      rw [map_name_otherEntries_cons, map_name_otherEntries_cons, hcore, hname, ih hnames hcores]

/-- So the imports are the same where these are. -/
theorem Application.importLines_eq_of_isCoreEntry (a : Application) {es es' : List Entry}
    (hnames : es.map (·.name) = es'.map (·.name))
    (hcore : es.map isCoreEntry = es'.map isCoreEntry) : a.importLines es = a.importLines es' := by
  have hlines (entries : List Entry) : a.importLines entries =
      ((otherEntries entries).map (·.map (·.name))).map fun names ↦
        a.coreImport ::
          (names.map Script.importStatement ++ a.reimported.map controllerImport) := by
    rw [Application.importLines]
    cases otherEntries entries with
    | error name => rfl
    | ok others => simp [bind, Except.bind, pure, Except.pure, Except.map]
  rw [hlines, hlines, map_name_otherEntries hnames hcore]

end Stimulus

namespace Renderer

/-! ### Renderers of applications -/

/-- A renderer of an application is made over the name that is given, or the default, if this is
accepted. -/
theorem of_stimulus? {names : List String} {block : String} {given : Option String}
    {analyzer : Option Analyzer} {r : Renderer} (h : stimulus? names block given analyzer = .ok r) :
    Script.isIdentifier (nameOr "application" given) = true ∧ r = {
      kind := .stimulus (.discover (nameOr "application" given) names block)
      block, analyzer } := by
  rw [stimulus?] at h
  split at h
  next hname => exact ⟨hname, (Except.ok.inj h).symm⟩
  next => exact absurd h (by simp)

/-- So it is made over an accepted name. -/
theorem stimulus?_eq_ok {names : List String} {block : String} {given : Option String}
    {analyzer : Option Analyzer} {r : Renderer} (h : stimulus? names block given analyzer = .ok r) :
    ∃ name, Script.isIdentifier name = true ∧
      r = { kind := .stimulus (.discover name names block), block, analyzer } :=
  ⟨_, of_stimulus? h⟩

/-- An accepted name makes a renderer. -/
theorem stimulus?_of_isIdentifier (names : List String) (block : String) {given : Option String}
    (analyzer : Option Analyzer) (h : Script.isIdentifier (nameOr "application" given) = true) :
    stimulus? names block given analyzer = .ok {
      kind := .stimulus (.discover (nameOr "application" given) names block)
      block, analyzer } := by
  rw [stimulus?, if_pos h]

/-! ### Texts -/

/-- What a kind adds around a processed block. -/
def surroundText (r : Renderer) (processed : String) : String :=
  match r.kind with
  | .plain => processed
  | .stimulus application =>
    Script.joinParts [application.setup, processed, application.registrations]
  | .starter _ instanceName => Script.joinParts [processed, s!"{instanceName}.start();"]

/-- The block as it enters the script. -/
def blockText (r : Renderer) : String := r.process r.block

/-- The script without its imports. -/
def bodyText (r : Renderer) : String := r.surroundText r.blockText

/-- The content of the script. -/
def contentText (r : Renderer) (m : ImportMap) : Except RenderFault String :=
  (r.importText m).map fun imports ↦ Script.joinParts [imports, r.bodyText]

/-- The script in its tag. -/
def scriptText (r : Renderer) (m : ImportMap) : Except RenderFault String :=
  (r.contentText m).map Script.wrap

/-- A part that is a text is taken as it is. -/
theorem partText_text (s : String) : partText (.text s) = .ok s := by
  by_cases h : s = ""
  · subst h
    rfl
  · have htrue : (Value.text s).isTruthy = true := by simp [Value.isTruthy, h]
    rw [partText, Value.orElse, if_pos htrue]

theorem mapM_partText_text (parts : List String) :
    (parts.map Value.text).mapM partText = .ok parts := by
  induction parts with
  | nil => rfl
  | cons part parts ih =>
    rw [List.map_cons, List.mapM_cons, partText_text, ih]
    rfl

/-- Parts that are texts can always be joined. -/
theorem joinParts_text (parts : List String) :
    joinParts (parts.map .text) = .ok (Script.joinParts parts) := by
  rw [joinParts, mapM_partText_text]
  rfl

/-- A block that is a text can always be surrounded. -/
theorem surround_text (r : Renderer) (processed : String) :
    r.surround (.text processed) = .ok (.text (r.surroundText processed)) := by
  rw [surround, surroundText]
  cases r.kind with
  | plain => rfl
  | stimulus application =>
    have h := joinParts_text [application.setup, processed, application.registrations]
    simp only [List.map_cons, List.map_nil] at h
    simp only [h]
    rfl
  | starter label instanceName =>
    have h := joinParts_text [processed, s!"{instanceName}.start();"]
    simp only [List.map_cons, List.map_nil] at h
    simp only [h]
    rfl

end Renderer

end ModuleScript
