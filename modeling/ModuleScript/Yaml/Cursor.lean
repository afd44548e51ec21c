import ModuleScript.Text.Word
import ModuleScript.Yaml.Fault

/-!
# Places in a YAML text

A cursor knows the text from its place on, and the offset, line and column of the place. The
classes of characters that the format tells apart are named here; the end of the text counts
with the line breaks where a token may end.
-/

namespace ModuleScript.Yaml

/-- Characters that end a line. -/
def isBreak (ch : Char) : Bool :=
  ch == '\n' || ch == '\r' || ch == '\x85' || ch == '\u2028' || ch == '\u2029'

/-- Spaces, tabs and line breaks. -/
def isGap (ch : Char) : Bool := ch == ' ' || ch == '\t' || isBreak ch

/-- Letters, digits, hyphens and low lines, of which names are made. -/
def isNameChar (ch : Char) : Bool :=
  Text.isAsciiUpper ch || Text.isAsciiLower ch || Text.isAsciiDigit ch || ch == '-' || ch == '_'

/-- A place in a text. -/
structure Cursor where
  rest : List Char
  offset : Nat := 0
  line : Nat := 0
  column : Nat := 0
  deriving DecidableEq, Repr

namespace Cursor

/-- The character at a place, if the text has not ended. -/
def peek? (c : Cursor) : Option Char := c.rest.head?

/-- The character `n` places further on. -/
def peekAt? (c : Cursor) (n : Nat) : Option Char := c.rest[n]?

/-- Whether the text has ended. -/
def atEnd (c : Cursor) : Bool := c.rest.isEmpty

/-- The next place. A CR before a line feed does not end a line, and a byte order mark has no
width. -/
def next (c : Cursor) : Cursor :=
  match c.rest with
  | [] => c
  | ch :: rest =>
    if isBreak ch && !(ch == '\r' && rest.head? == some '\n') then
      { rest, offset := c.offset + 1, line := c.line + 1, column := 0 }
    else
      { rest, offset := c.offset + 1, line := c.line
        column := if ch == '\ufeff' then c.column else c.column + 1 }

/-- The place `n` characters further on. -/
def skip (c : Cursor) : Nat → Cursor
  | 0 => c
  | n + 1 => c.next.skip n

/-- The longest run of characters of a class, and the place after it. -/
def span (c : Cursor) (cls : Char → Bool) : List Char × Cursor :=
  let run := c.rest.takeWhile cls
  (run, c.skip run.length)

/-- The place after the characters of a class. -/
def skipWhile (c : Cursor) (cls : Char → Bool) : Cursor := (c.span cls).2

/-- Whether the text has ended or goes on with a space, a tab or a line break. -/
def atGap (c : Cursor) : Bool := c.peek?.all isGap

/-- Whether the text ends `n` characters further on, or has a space, a tab or a line break
there. -/
def gapAt (c : Cursor) (n : Nat) : Bool := (c.peekAt? n).all isGap

/-- Whether the line ends here. -/
def atLineEnd (c : Cursor) : Bool := c.peek?.all isBreak

/-- Whether a space or the end of the line is here. -/
def atLineEndOrSpace (c : Cursor) : Bool := c.peek?.all fun ch ↦ ch == ' ' || isBreak ch

/-- The line break at a place and the place after it; all breaks but the line and paragraph
separators count as line feeds. -/
def lineBreak? (c : Cursor) : Option (Char × Cursor) :=
  match c.rest with
  | '\r' :: '\n' :: _ => some ('\n', c.skip 2)
  | ch :: _ =>
    if isBreak ch then some (if ch == '\u2028' || ch == '\u2029' then ch else '\n', c.next)
    else none
  | [] => none

/-- Whether three of these characters and then a gap follow. -/
def atMarker (c : Cursor) (ch : Char) : Bool := c.rest.take 3 == [ch, ch, ch] && c.gapAt 3

/-- Whether the start or the end of a document is marked here. -/
def atDocumentMarker (c : Cursor) : Bool := c.atMarker '-' || c.atMarker '.'

/-- The place after a comment, if there is one. -/
def skipComment (c : Cursor) : Cursor :=
  if c.peek? == some '#' then c.skipWhile (!isBreak ·) else c

/-- The place after the rest of a line that holds nothing but spaces and a comment. -/
def skipEmptyLine (c : Cursor) : Except Fault Cursor :=
  let c := (c.skipWhile (· == ' ')).skipComment
  if c.atEnd then .ok c
  else match c.lineBreak? with
    | some (_, c) => .ok c
    | none => .error .malformed

end Cursor

end ModuleScript.Yaml
