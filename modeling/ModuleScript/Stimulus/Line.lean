import ModuleScript.Analysis.Imports
import ModuleScript.Stimulus.Controller

/-!
# Forms of lines

The statements that a Stimulus script may hold already: imports, registrations of controllers
and the start of the application.
-/

namespace ModuleScript.Stimulus

open Pattern Node
open Analysis (quoteMark specifier quotedSpecifier)
open Script (identifierStart)

/-- What may follow a statement on its line. -/
def lineEnd : List Node := [blanks, opt (char (.single ';')), blanks]

/-- A default import; the binding is the first group, the specifier the second. -/
def defaultImport : Node :=
  concat (letters "import" ++ [someBlanks, group 1 Script.identifier, someBlanks] ++
    letters "from" ++ [someBlanks, quotedSpecifier 2])

/-- A line that is an import with bindings; a default binding is the first group, the specifier
the second. -/
def importLine : Node :=
  concat ([blanks] ++ letters "import" ++ [someBlanks,
    alt
      (concat [group 1 Script.identifier, blanks,
        opt (concat [char (.single ','), blanks, lazyStar (char (.noneOf [';']))])])
      (lazyStar (char (.noneOf [';', '"', '\'']))),
    someBlanks] ++ letters "from" ++ [someBlanks, quotedSpecifier 2] ++ lineEnd)

/-- A line that is an import without bindings; the specifier is the first group. -/
def sideEffectLine : Node :=
  concat ([blanks] ++ letters "import" ++ [someBlanks, quotedSpecifier 1] ++ lineEnd)

/-- A line that imports names from the package; the names are the first group. -/
def coreImportLine : Node :=
  concat ([blanks] ++ letters "import" ++ [blanks, char (.single '{'),
    group 1 (star (char (.noneOf ['}']))), char (.single '}'), blanks] ++
    letters "from" ++ [blanks, quoteMark] ++ letters coreModule ++ [quoteMark] ++ lineEnd)

/-- A registration with Stimulus or the application; the controller is the first group
(`registration_pattern`). -/
def registration (application : String) : Node :=
  concat ([anchor .wordEdge, anyOf [literal "Stimulus", literal application]] ++
    letters ".register" ++ [blanks, char (.single '('), blanks, quoteMark, specifier, quoteMark,
      blanks, char (.single ','), blanks, group 1 Script.identifier, blanks, char (.single ')')])

/-- A line that starts the application (`bootstrap_pattern`). -/
def bootstrapLine (application : String) : Node :=
  concat ([blanks, anyOf [
      concat ([anyOf [literal "const", literal "let", literal "var"], someBlanks,
        literal application, blanks, char (.single '='), blanks, literal "Application"]),
      literal "Application", literal application]] ++
    letters ".start" ++ [blanks, char (.single '('), blanks, char (.single ')')] ++ lineEnd)

/-- The match of a form with a whole line. -/
def matchLine? (form : Node) (line : String) : Option Match := form.matchWhole? line.toList

end ModuleScript.Stimulus
