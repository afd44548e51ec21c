/-!
# Lines of a text

A line ends at a line feed and nowhere else. A text that is read from a file first has its
other line ends, CR LF and CR, turned into line feeds.
-/

namespace ModuleScript.Text

/-- Cut at every separator. There is always one part more than there are separators. -/
def cutAt (sep : Char) : List Char → List (List Char)
  | [] => [[]]
  | c :: rest =>
    if c == sep then [] :: cutAt sep rest
    else match cutAt sep rest with
      | [] => [[c]]
      | part :: parts => (c :: part) :: parts

/-- The parts of a text between separators. -/
def split (s : String) (sep : Char) : List String := (cutAt sep s.toList).map String.ofList

/-- The lines of a text. -/
def lines (s : String) : List String := split s '\n'

/-- Put a separator between the parts. -/
def joinWith (sep : String) (parts : List String) : String := sep.intercalate parts

/-- Put a line feed between the parts. -/
def joinLines (parts : List String) : String := joinWith "\n" parts

/-- CR LF and CR become a line feed. -/
def unifyLineEnds : List Char → List Char
  | [] => []
  | '\r' :: '\n' :: rest => '\n' :: unifyLineEnds rest
  | '\r' :: rest => '\n' :: unifyLineEnds rest
  | c :: rest => c :: unifyLineEnds rest

end ModuleScript.Text
