import ModuleScript.Text.Hex
import ModuleScript.Text.PrintableTable

/-!
# Quoted texts

How a text is shown inside a message. It stands between apostrophes, or between quotation
marks when it holds an apostrophe and no quotation mark. The mark itself and the backslash
are escaped; tabs and line ends have letters; other characters that are not printable are
given by their code point. Bytes are shown in the same way with a letter before the first mark,
those that are no printable ASCII by their value.
-/

namespace ModuleScript.Text

/-- Shown as it is: printable ASCII, and whatever Unicode counts as printable. -/
def isPrintable (c : Char) : Bool := printableTable.contains c

/-- The mark that needs the fewest escapes. -/
def quoteMark (cs : List Char) : Char :=
  if cs.contains '\'' && !cs.contains '"' then '"' else '\''

/-- A code point in the shortest of the three escaped widths. -/
def escapeCodePoint (n : Nat) : List Char :=
  if n < 0x100 then '\\' :: 'x' :: hexDigits 2 n
  else if n < 0x10000 then '\\' :: 'u' :: hexDigits 4 n
  else '\\' :: 'U' :: hexDigits 8 n

/-- One character between the marks `mark`. -/
def quoteChar (mark c : Char) : List Char :=
  if c == mark || c == '\\' then ['\\', c]
  else if c == '\t' then ['\\', 't']
  else if c == '\n' then ['\\', 'n']
  else if c == '\r' then ['\\', 'r']
  else if isPrintable c then [c]
  else escapeCodePoint c.toNat

/-- The text between marks. -/
def quote (s : String) : String :=
  let mark := quoteMark s.toList
  String.ofList (mark :: (s.toList.flatMap (quoteChar mark) ++ [mark]))

/-- One byte between the marks `mark`. -/
def quoteByte (mark : Char) (b : UInt8) : List Char :=
  let c := Char.ofNat b.toNat
  if c == mark || c == '\\' then ['\\', c]
  else if c == '\t' then ['\\', 't']
  else if c == '\n' then ['\\', 'n']
  else if c == '\r' then ['\\', 'r']
  else if ' ' ≤ c && c ≤ '~' then [c]
  else '\\' :: 'x' :: hexDigits 2 b.toNat

/-- Bytes between marks. -/
def quoteBytes (bytes : List UInt8) : String :=
  let mark := quoteMark (bytes.map fun b ↦ Char.ofNat b.toNat)
  String.ofList ('b' :: mark :: (bytes.flatMap (quoteByte mark) ++ [mark]))

end ModuleScript.Text
