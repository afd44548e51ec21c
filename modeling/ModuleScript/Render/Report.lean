import ModuleScript.Render.Output

/-!
# Reports on a block

A check of sizes, and a report of what was found in a block, for development logs.
-/

namespace ModuleScript

/-- What a check of sizes has to say. -/
structure SizeCheck where
  issues : List String := []
  suggestions : List String := []
  deriving DecidableEq, Repr

namespace Renderer

/-- A block with more characters is large. -/
def blockLimit : Nat := 5000

/-- A map with more imports is large. -/
def importLimit : Nat := 20

/-- A block with more lines is complex. -/
def lineLimit : Nat := 100

/-- Check the sizes of block and map (`validate_configuration`). -/
def checkSizes (r : Renderer) (m : ImportMap) : Shared SizeCheck := do
  let complexity ← r.complexity?
  let length := r.block.length
  let advice (tooMany : Bool) (text : String) := if tooMany then [text] else []
  return {
    issues := advice (length > blockLimit)
      s!"Large JavaScript block detected ({length} characters)"
    suggestions :=
      advice (length > blockLimit)
        "Consider splitting large JavaScript blocks into separate modules" ++
      advice (m.size > importLimit)
        "Large number of imports detected - consider bundling for production" ++
      advice (complexity.any (·.lines > lineLimit))
        "Consider splitting complex JavaScript into multiple files" }

/-- A titled list and an empty line, or nothing if the list is empty. -/
def listing (title : String) (items : List String) : List String :=
  if items.isEmpty then [] else title :: items.map (fun item ↦ s!"  - {item}") ++ [""]

/-- The lines of a report. -/
def reportLines (r : Renderer) (found : Findings) (measures : Complexity) : List String :=
  let external := Text.joinWith ", " found.external
  let localModules := Text.joinWith ", " found.localModules
  [s!"=== {r.label} Development Report ===", "",
    s!"External dependencies detected: {external}",
    s!"Local modules detected: {localModules}", "",
    "Code complexity:",
    s!"  - Lines: {measures.lines}",
    s!"  - Functions: {measures.functions}",
    s!"  - Classes: {measures.classes}",
    s!"  - Event listeners: {measures.eventListeners}",
    s!"  - Uses module syntax: {r.usesModuleSyntax}", ""] ++
  listing "Import suggestions:" found.suggestions ++
  listing "Code organization suggestions:" measures.suggestions ++
  ["=== End Report ==="]

/-- The report on the block (`generate_development_report`). -/
def report (r : Renderer) : Shared String :=
  match r.analyzer with
  | none => return "Dependency analysis disabled"
  | some analyzer => do
    let found ← analyzer.keptFindings r.block
    let measures ← analyzer.keptComplexity r.block
    match found.findings?, measures.complexity? with
    | some found, some measures => return Text.joinLines (r.reportLines found measures)
    | none, _ => throw .noFindings
    | _, none => throw .noMeasures

end Renderer

end ModuleScript
