import ModuleScript.Render.Renderer

/-!
# Rendering through the shared caches

The imports, the processed block and the whole content of a script are each kept under a key
made of what they depend on. A script with warnings is put together anew from the kept parts.
What is kept may be a value of the host's; it shows as it is until a text is needed.
-/

namespace ModuleScript.Renderer

/-- What is kept in a partition for a text, which is computed on a miss. -/
def keptText (partition : Partition) (parts : List String) (text : Shared String) :
    Shared Value := do
  let kept ← (Store.slot partition.name).getOrCompute (Digest.contentKey parts) do
    return .data (.text (← text))
  return kept.toValue

/-- A result that needs no caches. -/
def ofResult {α : Type} : Except RenderFault α → Shared α
  | .ok a => return a
  | .error fault => throw fault

/-- The import statements (`generate_import_statements`). -/
def imports (r : Renderer) (m : ImportMap) : Shared Value :=
  keptText .importStatements (r.importParts m) (ofResult (r.importText m))

/-- The processed block (`processed_block`). -/
def processed (r : Renderer) (m : ImportMap) : Shared Value :=
  keptText .processedBlock (r.blockParts m) (return r.process r.block)

/-- The script without its imports (`generate_body`). -/
def body (r : Renderer) (m : ImportMap) : Shared Value := do
  ofResult (r.surround (← r.processed m))

/-- The content of the script (`generate_script_content`). -/
def content (r : Renderer) (m : ImportMap) : Shared Value :=
  keptText .scriptContent (r.contentParts m) do
    let imports ← r.imports m
    let body ← r.body m
    ofResult (joinParts [imports, body])

/-- The script in its tag, or nothing if there is nothing in it (`render`). -/
def render (r : Renderer) (m : ImportMap) : Shared String := do
  match ← r.content m with
  | .text content => return Script.wrap content
  | _ => throw .noContent

/-- The findings in the block, none if analysis is off (`analyze_dependencies`). -/
def findings (r : Renderer) : Shared Findings :=
  match r.analyzer with
  | some analyzer => analyzer.analyze r.block
  | none => return {}

/-- The specifiers that the block imports, none if analysis is off: whatever the value kept for
them offers one by one, if it can all be members of a set. -/
def existingImports (r : Renderer) : Shared (List Value) :=
  match r.analyzer with
  | none => return []
  | some analyzer => do
    match (← analyzer.existingImports r.block).elements? with
    | some names => if names.all (·.isKey) then return names else throw .noSpecifiers
    | none => throw .noSpecifiers

/-- The measures of the block, none if analysis is off (`analyze_complexity`). -/
def complexity? (r : Renderer) : Shared (Option Complexity) :=
  match r.analyzer with
  | some analyzer => analyzer.complexity? r.block
  | none => return none

/-- Whether the block looks like a module, which nothing does if analysis is off
(`uses_module_syntax`). -/
def usesModuleSyntax (r : Renderer) : Bool :=
  r.analyzer.isSome && Analysis.usesModuleSyntax r.block

/-- Names that the kind provides by itself. -/
def ownNames (r : Renderer) : List String :=
  match r.kind with
  | .stimulus application => application.controllers ++ ["Application", "Stimulus"]
  | _ => []

/-- The names that the script can import already: those of the map, of the block's own imports and
of the kind (`provided_names`). -/
def provided (r : Renderer) (m : ImportMap) : Shared (List Value) := do
  return m.names.map .text ++ (← r.existingImports) ++ r.ownNames.map .text

/-- The findings that nothing provides, with advice on them (`missing_dependencies`). -/
def missing (r : Renderer) (m : ImportMap) : Shared Findings := do
  let found ← r.findings
  if found.isEmpty then return {}
  let provided ← r.provided m
  let isMissing (name : String) : Bool := !provided.any (·.isText name)
  let external := found.external.filter isMissing
  let localModules := found.localModules.filter isMissing
  let suggestions := match r.analyzer with
    | some analyzer => Analysis.suggestions analyzer.rules external localModules
    | none => []
  return { external, localModules, suggestions }

/-- A warning as a comment. -/
def warningLine (advice : String) : String := s!"// WARNING: {advice}"

/-- The script in its tag, with a warning for everything missing directly after the imports
(`render_with_analysis`). -/
def renderWithWarnings (r : Renderer) (m : ImportMap) : Shared String := do
  let missing ← r.missing m
  let warnings := Text.joinLines (missing.suggestions.map warningLine)
  let head ← ofResult (joinFilled "\n" [← r.imports m, .text warnings])
  let body ← r.body m
  return Script.wrap (← ofResult (joinParts [.text head, body]))

/-- The partitions that rendering uses. -/
def partitions : List Partition := [.scriptContent, .importStatements, .processedBlock]

/-- The sizes of these partitions, which exist afterwards (`cache_stats`). -/
def cacheSizes (s : Store) : List (String × Nat) × Store :=
  (partitions.map fun p ↦ (s!"{p.name}_cache_size", (s.partition p.name).size),
    partitions.foldl (fun s p ↦ s.touch p.name) s)

/-- Empty these partitions, which exist afterwards (`clear_caches`). -/
def clearCaches (s : Store) : Store := partitions.foldl (fun s p ↦ s.clearPartition p.name) s

end ModuleScript.Renderer
