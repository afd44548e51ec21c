import ModuleScript.ImportMap.Basic
import ModuleScript.Script.Name
import ModuleScript.Text.Lowercase

/-!
# Controllers and the Stimulus package

A controller is registered under an identifier made from its class name. Some entries of an import
map load the package itself; they are told from the others by name, location or tag.
-/

namespace ModuleScript.Stimulus

/-- The package that Stimulus is imported from. -/
def coreModule : String := "@hotwired/stimulus"

/-- The names under which an import map may list the package. -/
def coreNames : List String := [coreModule, "stimulus"]

/-- The name without the word for a controller at its end. -/
def dropSuffix (cs : List Char) : List Char :=
  let suffix := "Controller".toList
  if suffix.isSuffixOf cs then cs.take (cs.length - suffix.length) else cs

/-- A hyphen before every capital. -/
def hyphenate (cs : List Char) : List Char :=
  cs.flatMap fun c ↦ if Text.isAsciiUpper c then ['-', c] else [c]

/-- The identifier of a controller: its words in lower case with hyphens between them
(`controller_identifier`). -/
def identifier (name : String) : String :=
  let lowered := Text.lowerFrom [] (hyphenate (dropSuffix name.toList))
  String.ofList (lowered.dropWhile (· == '-'))

/-- Whether an entry loads the package itself; its location is looked at only if its name does not
tell (`is_core_module_entry`). -/
def isCoreEntry (e : Entry) : Except String Bool :=
  if Script.isControllerName e.name then .ok false
  else if coreNames.contains e.name then .ok true
  else match e.location with
    | some location => .ok (Text.contains location coreModule || e.framework.isText "stimulus")
    | none => .error e.name

end ModuleScript.Stimulus
