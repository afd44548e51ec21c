import ModuleScript.Rules.Loose
import ModuleScript.Text.Lines
import ModuleScript.Text.Utf8
import ModuleScript.Yaml.Reader

/-!
# Rule files

A rule set is kept in two files: a list of libraries, each with its patterns, and a mapping with
the module patterns and the excluded names. What cannot be used is skipped with a warning, in
the order of the files.

Reading a document and compiling a pattern is left to the readers at hand: nothing here depends on
what they take and refuse.
-/

namespace ModuleScript.RuleSet

/-- The readers that rule files are loaded with: of the document in a text, as `yaml.safe_load`
reads it, and of a written pattern, which is a text and may be broken, as `re.compile` does. -/
structure Readers where
  document : List Char → Except Yaml.Fault Value
  pattern : Value → Except Pattern.Fault Pattern

/-- The readers that come with this library. They take no broken texts. -/
def Readers.builtIn : Readers where
  document := Yaml.read
  pattern
    | .text source => Pattern.ofString? source
    | _ => .error (.limit .unsupported)

/-- Something in a rule file that is skipped, or a missing file. -/
inductive Warning where
  | fileMissing (path : String)
  | emptyPattern (path : String)
  | badPattern (source : Value) (path error : String)
  | badLibrary (item : Value) (path : String)
  | noGroup (raw : Value) (path : String)
  | badModules (path : String)

/-- The wording of a warning. -/
def Warning.message : Warning → String
  | .fileMissing path => s!"Rules file not found: {path}"
  | .emptyPattern path => s!"Skipping empty pattern in {path}"
  | .badPattern source path error =>
    s!"Skipping invalid pattern {source.quoted} in {path}: {error}"
  | .badLibrary item path => s!"Skipping invalid library rule in {path}: {item.display}"
  | .noGroup raw path =>
    s!"Skipping local pattern without a capture group in {path}: {raw.quoted}"
  | .badModules path => s!"Ignoring malformed local module rules in {path}"

/-- Why rule files cannot be loaded. -/
inductive FileFault where
  | encoding (fault : Text.Utf8.Fault)
  | yaml (fault : Yaml.Fault)
  /-- A value has no items where some are needed. -/
  | noItems
  /-- A written pattern goes beyond a limit. -/
  | pattern (limit : Pattern.Limit)
  /-- A number is too long to be written. -/
  | number (fault : Decimal.LengthFault)
  deriving DecidableEq, Repr

/-- Loading with warnings, latest first. -/
abbrev Loading := StateT (List Warning) (Except FileFault)

/-- Give a warning. -/
def warn (w : Warning) : Loading Unit := modify (w :: ·)

/-- The items of a value; one that counts as false has none. -/
def itemsOf (v : Value) : Loading (List Value) :=
  if !v.isTruthy then return []
  else match v.elements? with
    | some items => return items
    | none => throw .noItems

/-- The form of a value as it stands. -/
def formOf (v : Value) : Loading Value :=
  match v.form? with
  | .ok form => return form
  | .error fault => throw (.number fault)

variable (r : Readers)

/-- The text of a written pattern, if there is one that is not empty. -/
def writtenPattern? : Value → Option Value
  | .text source => if source.isEmpty then none else some (.text source)
  | .broken source => some (.broken source)
  | _ => none

/-- Read a written pattern, which is a text that is not empty (`_compile`). -/
def readPattern (path : String) (raw : Value) : Loading (Option LoosePattern) := do
  match writtenPattern? raw with
  | some source =>
    match r.pattern source with
    | .ok pattern => return some { source, pattern }
    | .error (.malformed error) =>
      warn (.badPattern source path error)
      return none
    | .error (.limit limit) => throw (.pattern limit)
  | none =>
    warn (.emptyPattern path)
    return none

/-- The pattern of a module, which needs a group. -/
def readModulePattern (path : String) (raw : Value) : Loading (Option LoosePattern) := do
  match ← readPattern r path raw with
  | none => return none
  | some p =>
    if p.pattern.groups = 0 then
      warn (.noGroup raw path)
      return none
    else return some p

/-- The rule of one pattern of a library. -/
def readRule (path : String) (name location raw : Value) : Loading (Option LooseRule) := do
  match ← readPattern r path raw with
  | some pattern => return some { name := ← formOf name, pattern, location }
  | none => return none

/-- The rules of one library: one for each of its patterns. -/
def readLibrary (path : String) (item : Value) : Loading (List LooseRule) := do
  let fields := item.pairs?.getD []
  match Value.get? "name" fields, Value.get? "patterns" fields with
  | some name, some patterns =>
    let location := (Value.get? "cdn_url" fields).getD .null
    return (← (← itemsOf patterns).mapM (readRule r path name location)).filterMap id
  | _, _ =>
    discard <| formOf item
    warn (.badLibrary item path)
    return []

/-- The library rules of a file (`load_external_rules`). -/
def readLibraries (path : String) (data : Value) : Loading (List LooseRule) := do
  return (← (← itemsOf data).mapM (readLibrary r path)).flatten

/-- The module patterns and excluded names of a file (`load_local_rules`). -/
def readModules (path : String) (data : Value) : Loading (List LoosePattern × List Value) := do
  match (data.orElse (.dict [])).pairs? with
  | some fields =>
    let field (name : String) := (Value.get? name fields).getD .null
    let patterns ← (← itemsOf (field "patterns")).mapM (readModulePattern r path)
    let excluded ← itemsOf (field "excluded_globals")
    return (patterns.filterMap id, ← excluded.mapM formOf)
  | none =>
    warn (.badModules path)
    return ([], [])

/-- The value of the bytes of a file. -/
def parseFile (bytes : List UInt8) : Except FileFault Value :=
  match Text.Utf8.decodeStream bytes with
  | .error fault => .error (.encoding fault)
  | .ok text => (r.document (Text.unifyLineEnds text.toList)).mapError .yaml

/-- The value of a file; null if it is missing (`_read_yaml`). -/
def readFile (path : String) (bytes : Option (List UInt8)) : Loading Value := do
  match bytes with
  | none =>
    warn (.fileMissing path)
    return .null
  | some bytes => parseFile r bytes

/-- Load the rule files of a directory, given by their bytes (`load_rules`). -/
def loading (directory : String) (libraries modules : Option (List UInt8)) :
    Loading LooseRuleSet := do
  let librariesPath := s!"{directory}/external_libraries.yaml"
  let modulesPath := s!"{directory}/local_modules.yaml"
  let libraries ← readLibraries r librariesPath (← readFile r librariesPath libraries)
  let (modulePatterns, excluded) ← readModules r modulesPath (← readFile r modulesPath modules)
  return { libraries, modulePatterns, excluded }

/-- The rule set of a directory and the warnings in order, or why it cannot be loaded. -/
def load? (directory : String) (libraries modules : Option (List UInt8)) :
    Except FileFault (LooseRuleSet × List Warning) := do
  let (rules, warnings) ← (loading r directory libraries modules).run []
  return (rules, warnings.reverse)

end ModuleScript.RuleSet
