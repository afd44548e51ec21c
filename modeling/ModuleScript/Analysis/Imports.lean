import ModuleScript.Analysis.Detection
import ModuleScript.Text.Contains

/-!
# Imports within a block

The specifiers that a block imports by itself: first those of its import statements, then
those of its calls of `import`.
-/

namespace ModuleScript.Analysis

open Pattern Node

/-- Either quotation mark. -/
def quoteMark : Node := oneOf [.single '"', .single '\'']

/-- A specifier: everything up to a quotation mark, and not nothing. -/
def specifier : Node := plus (char (.noneOf ['"', '\'']))

/-- A specifier between quotation marks, kept under a number. -/
def quotedSpecifier (index : Nat) : Node := concat [quoteMark, group index specifier, quoteMark]

/-- What an import statement binds: names in braces, a namespace, or one name. -/
def importClause : Node :=
  anyOf [
    concat [char (.single '{'), plus (char (.noneOf ['}'])), char (.single '}')],
    concat ([char (.single '*'), someBlanks] ++ letters "as" ++
      [someBlanks, plus (oneOf [.oneOf .word])]),
    plus (oneOf [.oneOf .word])]

/-- An import statement, its specifier kept as the first group (`STATIC_IMPORT_PATTERN`). -/
def staticImport : Node :=
  concat (letters "import" ++ [someBlanks,
    opt (concat ([importClause,
      star (concat [blanks, char (.single ','), blanks, importClause]),
      someBlanks] ++ letters "from" ++ [someBlanks])),
    quotedSpecifier 1])

/-- A call of `import`, its specifier kept as the first group (`DYNAMIC_IMPORT_PATTERN`). -/
def dynamicImport : Node :=
  concat (letters "import" ++ [blanks, char (.single '('), blanks, quotedSpecifier 1, blanks,
    char (.single ')')])

/-- The specifiers that the block imports, each once (`_extract_existing_imports`). -/
def existingImports (block : String) : List String :=
  let scanned (n : Node) := (n.scan block.toList).filterMap (·.group? 1)
  (scanned staticImport ++ scanned dynamicImport).foldl addNew []

/-- Whether the block looks like a module (`uses_module_syntax`). -/
def usesModuleSyntax (block : String) : Bool :=
  Text.contains block "import " || Text.contains block "export " || Text.contains block "import("

end ModuleScript.Analysis
