import ModuleScript.Analysis.Findings
import ModuleScript.Pattern.Match
import ModuleScript.Script.Name
import ModuleScript.Text.Lines

/-!
# Measures of a block

Rough counts of lines that are not blank, of functions, classes and event listeners, and
advice where a count is above its limit.
-/

namespace ModuleScript.Analysis

open Pattern Node

/-- A name: at least one word character. -/
def wordName : Node := plus (oneOf [.oneOf .word])

/-- A declared function. -/
def declaredFunction : Node := concat (letters "function" ++ [someBlanks, wordName])

/-- A function that is the value of a variable. -/
def assignedFunction : Node :=
  concat ([anyOf [literal "const", literal "let", literal "var"], someBlanks, wordName, blanks,
    char (.single '='), blanks, anyOf [literal "function", char (.single '(')]])

/-- A line that starts like a method. -/
def methodLine : Node :=
  concat [anchor .lineStart, blanks,
    anyOf [literal "constructor",
      concat [oneOf [.range 'a' 'z', Script.capital, .single '_'], star (oneOf Script.plainWord)]],
    blanks, char (.single '(')]

/-- A declared class. -/
def declaredClass : Node := concat (letters "class" ++ [someBlanks, wordName])

/-- A listener: the call that adds one, or an assignment to a handler. -/
def eventListener : Node :=
  anyOf [literal "addEventListener",
    concat (letters "on" ++ [wordName, blanks, char (.single '=')])]

/-- The number of matches of a scan over the block. -/
def count (n : Node) (block : String) : Nat := (n.scan block.toList).length

/-- Above this number of lines a block should be split. -/
def lineLimit : Nat := 50

/-- Above this number of functions a block should be organised. -/
def functionLimit : Nat := 5

/-- Above this number of listeners a block should use a framework. -/
def listenerLimit : Nat := 3

/-- The lines of a block that are not blank. -/
def filledLines (block : String) : Nat :=
  (Text.cutAt '\n' block.toList).countP fun line ↦ line.any fun c ↦ !Text.isBlank c

/-- The measures of a block (`_analyze_complexity`). -/
def measure (block : String) : Complexity :=
  let lines := filledLines block
  let functions :=
    count declaredFunction block + count assignedFunction block + count methodLine block
  let listeners := count eventListener block
  let advice (tooMany : Bool) (text : String) := if tooMany then [text] else []
  { lines
    functions
    classes := count declaredClass block
    eventListeners := listeners
    suggestions :=
      advice (lines > lineLimit)
        "Consider splitting large JavaScript blocks into separate modules" ++
      advice (functions > functionLimit)
        "Consider organizing functions into classes or modules" ++
      advice (listeners > listenerLimit)
        "Consider using a framework like Stimulus for event handling" }

end ModuleScript.Analysis
