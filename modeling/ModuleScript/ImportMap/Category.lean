import ModuleScript.ImportMap.Basic
import ModuleScript.Script.Name

/-!
# Categories by name

An entry without tags gets them from its name: a controller's name, a word that gives away a
framework or a library, or else nothing but the kind of a utility.
-/

namespace ModuleScript.ImportMap

/-- Words in a name, and the kind and framework that any of them gives. -/
structure Category where
  words : List String
  kind : String
  framework : Option String

/-- The categories in the order in which they are tried (`_CATEGORY_RULES`). -/
def categories : List Category :=
  [⟨["stimulus"], "framework", some "stimulus"⟩,
   ⟨["alpine"], "framework", some "alpine"⟩,
   ⟨["vue"], "framework", some "vue"⟩,
   ⟨["react"], "framework", some "react"⟩,
   ⟨["lodash", "underscore", "jquery", "axios", "fetch"], "library", none⟩]

/-- Kind and framework of a name that is no controller's, by the words it holds. -/
def categoryBy (holds : String → Bool) : String × Option String :=
  match categories.find? (·.words.any holds) with
  | some category => (category.kind, category.framework)
  | none => ("utility", none)

/-- Kind and framework by name. -/
def categoryOf (name : String) : String × Option String :=
  if Script.isControllerName name then ("controller", some "stimulus")
  else categoryBy (Text.contains name)

/-- Kind and framework of a name that can be searched. A broken text is no name of a controller. -/
def categoryOf? : Value → Option (String × Option String)
  | .text name => some (categoryOf name)
  | .broken t => some (categoryBy t.contains)
  | _ => none

/-- Tag an entry that has no tags yet. -/
def tagByName (e : Entry) : Entry :=
  if e.isTagged then e
  else
    let (kind, framework) := categoryOf e.name
    { e with kind := .text kind, framework := .ofText? framework }

/-- Tag all entries that have no tags yet (`auto_categorize_imports`). -/
def autoCategorize (m : ImportMap) : ImportMap := { m with entries := m.entries.map tagByName }

end ModuleScript.ImportMap
