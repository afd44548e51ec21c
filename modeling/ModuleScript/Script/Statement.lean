import ModuleScript.Script.Name
import ModuleScript.Text.Blank
import ModuleScript.Text.Lines

/-!
# Statements and parts of a script

How a module is imported, how the parts of a script are joined, and the tag around it.
-/

namespace ModuleScript.Script

/-- The import of a module by its name, with a binding when the name reads as one
(`import_statement`). -/
def importStatement (name : String) : String :=
  if isBindingName name then s!"import {name} from \"{name}\";" else s!"import \"{name}\";"

/-- The parts that are not empty, with a separator between them. -/
def joinFilled (sep : String) (parts : List String) : String :=
  Text.joinWith sep (parts.filter (!·.isEmpty))

/-- The parts that are not empty, with a blank line between them (`_join`). -/
def joinParts (parts : List String) : String := joinFilled "\n\n" parts

/-- The tag of a module script around its content; nothing around nothing but blanks
(`wrap_in_script_tag`). -/
def wrap (content : String) : String :=
  if content.toList.all Text.isBlank then ""
  else "<script type=\"module\">\n" ++ content ++ "\n</script>"

end ModuleScript.Script
