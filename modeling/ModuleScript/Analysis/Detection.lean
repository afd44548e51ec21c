import ModuleScript.Analysis.Findings
import ModuleScript.Rules.Basic
import ModuleScript.Script.Name
import ModuleScript.Text.Lowercase

/-!
# Detection of libraries and modules

A library is detected when one of its patterns occurs in the block, a module when a module
pattern captures a class name that is not excluded. Every detected name comes with advice on
how to make it importable.
-/

namespace ModuleScript.Analysis

/-- A module pattern without a group cannot name what it matches. -/
inductive Fault where
  | noGroup (pattern : String)
  deriving DecidableEq, Repr

/-- Append what is not there yet. -/
def addNew (names : List String) (name : String) : List String :=
  if names.contains name then names else names ++ [name]

/-- The libraries with a pattern that occurs in the block, in the order of the rules
(`detect_external`). -/
def detectLibraries (rules : RuleSet) (block : String) : List String :=
  ((rules.libraries.filter (·.pattern.occursIn block)).map (·.name)).foldl addNew []

/-- Whether a captured name can be that of a module (`looks_like_importable_class`). -/
def isModuleName (rules : RuleSet) (name : String) : Bool :=
  Script.isClassName name && !rules.excluded.contains name

/-- The names that a module pattern captures in a block. -/
def capturedNames (pattern : Pattern) (block : String) : Except Fault (List String) :=
  let found := pattern.scan block
  if pattern.groups = 0 && !found.isEmpty then .error (.noGroup pattern.source)
  else .ok (found.filterMap (·.group? 1))

/-- The modules that the module patterns capture, in the order of the patterns (`detect_local`). -/
def detectModules (rules : RuleSet) (block : String) : Except Fault (List String) := do
  let captured ← rules.modulePatterns.mapM (capturedNames · block)
  return (captured.flatten.filter (isModuleName rules)).foldl addNew []

/-- The advice on a library: its location if there is one on offer. -/
def adviceOnLibrary (rules : RuleSet) (name : String) : String :=
  match rules.locationOf? name with
  | some location =>
    s!"Add to import map: import_map.add_import(\"{name}\", \"{location.display}\")"
  | none => s!"Consider adding '{name}' to your import map"

/-- The advice on a module: a location by its name in lower case. -/
def adviceOnModule (name : String) : String :=
  s!"Consider adding local module: import_map.add_import(\"{name}\", \"path/to/" ++
    s!"{Text.toLower name}.js\")"

/-- One line of advice for each library and each module (`generate_suggestions`). -/
def suggestions (rules : RuleSet) (external localModules : List String) : List String :=
  external.map (adviceOnLibrary rules) ++ localModules.map adviceOnModule

/-- What the rules find in a block (`_analyze`). -/
def findings (rules : RuleSet) (block : String) : Except Fault Findings := do
  let external := detectLibraries rules block
  let localModules ← detectModules rules block
  return { external, localModules, suggestions := suggestions rules external localModules }

end ModuleScript.Analysis
