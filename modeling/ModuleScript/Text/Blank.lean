import ModuleScript.Text.CharRanges

/-!
# Blank characters, trimming and words

A blank is a character of Unicode's white space, or one of the four separators U+001C to
U+001F. Trimming removes blanks at both ends of a text; the words of a text are its maximal
runs without blanks.
-/

namespace ModuleScript.Text

/-- White space and the separators U+001C to U+001F. -/
def blankTable : CharRanges where
  ranges :=
    [(0x9, 0xd), (0x1c, 0x20), (0x85, 0x85), (0xa0, 0xa0), (0x1680, 0x1680), (0x2000, 0x200a),
     (0x2028, 0x2029), (0x202f, 0x202f), (0x205f, 0x205f), (0x3000, 0x3000)]

/-- A blank separates words and is removed by trimming. -/
def isBlank (c : Char) : Bool := blankTable.contains c

/-- Everything from the first character that is not in the class. -/
def trimStartChars (drop : Char → Bool) (cs : List Char) : List Char := cs.dropWhile drop

/-- Everything up to the last character that is not in the class. -/
def trimEndChars (drop : Char → Bool) (cs : List Char) : List Char :=
  (cs.reverse.dropWhile drop).reverse

/-- Everything from the first to the last character that is no blank. -/
def trimChars (cs : List Char) : List Char := trimEndChars isBlank (trimStartChars isBlank cs)

/-- The text without the blanks at its two ends. -/
def trim (s : String) : String := String.ofList (trimChars s.toList)

/-- The text without the characters `c` at its end. -/
def trimEnd (s : String) (c : Char) : String := String.ofList (trimEndChars (· == c) s.toList)

/-- The maximal runs without blanks, `run` being the one under way, in reverse. -/
def wordsFrom (run : List Char) : List Char → List (List Char)
  | [] => if run.isEmpty then [] else [run.reverse]
  | c :: rest =>
    if isBlank c then
      if run.isEmpty then wordsFrom [] rest else run.reverse :: wordsFrom [] rest
    else wordsFrom (c :: run) rest

/-- The words of a text. -/
def words (s : String) : List String := (wordsFrom [] s.toList).map String.ofList

end ModuleScript.Text
