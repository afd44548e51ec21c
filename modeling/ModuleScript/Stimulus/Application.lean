import ModuleScript.Data.Sorting
import ModuleScript.Stimulus.Controller
import ModuleScript.Stimulus.Line
import ModuleScript.Text.Blank
import ModuleScript.Text.Lines

/-!
# The controllers of an application

Controllers come from an import map and from a script block, where they are registered or
imported by default. Some default imports of the block have to be written anew, and the names
that the block imports from the package are gathered.
-/

namespace ModuleScript.Stimulus

/-- What is known of an application from an import map and a block. -/
structure Application where
  name : String
  /-- Controllers of the import map, in its order. -/
  mapControllers : List String
  /-- Further controllers of the block, in the order in which they appear. -/
  blockControllers : List String
  /-- Controllers of the block whose import line is dropped and written anew. -/
  reimported : List String
  /-- Names that the block imports from the package, apart from the application itself. -/
  coreBindings : List String
  deriving DecidableEq, Repr

/-- All controllers, those of the import map first. -/
def Application.controllers (a : Application) : List String :=
  a.mapControllers ++ a.blockControllers

/-- Names with their places, by place and then by name. -/
def sortByPlace (found : List (Nat × String)) : List (Nat × String) :=
  Sorting.sortBy (fun a b ↦ a.1 < b.1 || (a.1 == b.1 && decide (a.2 ≤ b.2))) found

/-- The first groups of the matches of a scan, with the places of the matches. -/
def namedPlaces (form : Pattern.Node) (block : String) : List (Nat × String) :=
  (form.scan block.toList).filterMap fun m ↦ (m.group? 1).map (m.start, ·)

/-- The controllers that a block registers or imports, with their places. -/
def controllerPlaces (application block : String) : List (Nat × String) :=
  namedPlaces (registration application) block ++
    (namedPlaces defaultImport block).filter fun (_, name) ↦ Script.isControllerName name

/-- The controllers of a block that have an identifier and are not known already
(`_discover_block_controllers`). -/
def discoverControllers (known : List String) (application block : String) : List String :=
  (sortByPlace (controllerPlaces application block)).foldl (fun found (_, name) ↦
    if known.contains name || found.contains name || (identifier name).isEmpty then found
    else found ++ [name]) []

/-- The controllers of a block whose import line names a controller as its specifier
(`_find_reimported_block_controllers`). -/
def findReimported (controllers blockControllers : List String) (block : String) : List String :=
  (Text.lines block).foldl (fun found line ↦
    match matchLine? importLine line with
    | none => found
    | some m =>
      match m.group? 1, m.group? 2 with
      | some binding, some source =>
        if blockControllers.contains binding && controllers.contains source then
          Analysis.addNew found binding
        else found
      | _, _ => found) []

/-- The names in the braces of an import, blanks within them reduced to single spaces. -/
def bindingNames (braced : String) : List String :=
  (Text.split braced ',').map fun name ↦ Text.joinWith " " (Text.words name)

/-- The names that a block imports from the package, but for the application
(`_find_core_bindings`). -/
def findCoreBindings (block : String) : List String :=
  let braced := (Text.lines block).filterMap fun line ↦
    (matchLine? coreImportLine line).bind (·.group? 1)
  ((braced.flatMap bindingNames).filter fun name ↦ !name.isEmpty && name != "Application").foldl
    Analysis.addNew []

/-- Look for the controllers and bindings of an application of a given name. -/
def Application.discover (name : String) (mapNames : List String) (block : String) : Application :=
  let mapControllers := mapNames.filter Script.isControllerName
  let blockControllers := discoverControllers mapControllers name block
  { name
    mapControllers
    blockControllers
    reimported := findReimported (mapControllers ++ blockControllers) blockControllers block
    coreBindings := findCoreBindings block }

end ModuleScript.Stimulus
