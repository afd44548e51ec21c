import ModuleScript.Script.Statement
import ModuleScript.Stimulus.Application

/-!
# Generated statements

The imports of a Stimulus script, the start of its application and the registrations of its
controllers.
-/

namespace ModuleScript.Stimulus

/-- The import of the package. -/
def Application.coreImport (a : Application) : String :=
  "import \x7b " ++ Text.joinWith ", " ("Application" :: a.coreBindings) ++ " \x7d from \"" ++
    coreModule ++ "\";"

/-- The default import of a controller under its own name. -/
def controllerImport (name : String) : String := s!"import {name} from \"{name}\";"

/-- The entries that do not load the package itself. -/
def otherEntries : List Entry → Except String (List Entry)
  | [] => .ok []
  | e :: rest => do
    let isCore ← isCoreEntry e
    let others ← otherEntries rest
    return if isCore then others else e :: others

/-- The imports: the package, the other entries, and the controllers to be imported anew
(`_build_import_statements`). -/
def Application.importLines (a : Application) (entries : List Entry) :
    Except String (List String) := do
  let others ← otherEntries entries
  return a.coreImport :: (others.map (Script.importStatement ·.name) ++
    a.reimported.map controllerImport)

/-- The start of the application (`generate_application_setup`). -/
def Application.setup (a : Application) : String := s!"const {a.name} = Application.start();"

/-- The registration of a controller. -/
def Application.registrationLine (a : Application) (controller : String) : String :=
  s!"{a.name}.register(\"{identifier controller}\", {controller});"

/-- The registrations of all controllers (`generate_controller_registrations`). -/
def Application.registrations (a : Application) : String :=
  Text.joinLines (a.controllers.map a.registrationLine)

end ModuleScript.Stimulus
