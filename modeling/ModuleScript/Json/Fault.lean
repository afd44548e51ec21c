import ModuleScript.Decimal.DigitLimit

/-!
# Faults of JSON texts

What is wrong with a text that is no JSON, and where. The message counts lines and columns from
one and characters from zero.
-/

namespace ModuleScript.Json

/-- What a reader needs at a place, or what it cannot take there. -/
inductive Cause where
  | value
  | fieldName
  | colon
  | comma
  | extraData
  | openString
  | controlCharacter
  | badEscape
  | badUnicodeEscape
  | byteOrderMark
  deriving DecidableEq, Repr

/-- The wording of a cause. -/
def Cause.message : Cause → String
  | .value => "Expecting value"
  | .fieldName => "Expecting property name enclosed in double quotes"
  | .colon => "Expecting ':' delimiter"
  | .comma => "Expecting ',' delimiter"
  | .extraData => "Extra data"
  | .openString => "Unterminated string starting at"
  | .controlCharacter => "Invalid control character at"
  | .badEscape => "Invalid \\escape"
  | .badUnicodeEscape => "Invalid \\uXXXX escape"
  | .byteOrderMark => "Unexpected UTF-8 BOM (decode using utf-8-sig)"

/-- Why a text is not read. -/
inductive Fault where
  | malformed (cause : Cause) (offset : Nat)
  /-- A whole number has more digits than are read. -/
  | tooManyDigits (count : Nat)
  /-- Lists and objects are nested too deeply. -/
  | tooDeep
  deriving DecidableEq, Repr

/-- The greatest depth to which lists and objects may be nested. -/
def depthLimit : Nat := 989

/-- The greatest depth at which a number may be written as a word. -/
def wordDepth : Nat := 988

/-- The greatest depth at which a text is called malformed, but for a missing value, which is
noticed at any depth. -/
def faultDepth : Nat := 986

/-- The fault that is given for one within so many lists and objects. -/
def Fault.within (depth : Nat) : Fault → Fault
  | .malformed cause offset =>
    if cause != .value && faultDepth < depth then .tooDeep else .malformed cause offset
  | fault => fault

/-- The line of a place, and its column within that line. -/
def lineAndColumn (text : List Char) (offset : Nat) : Nat × Nat :=
  let before := text.take offset
  (before.count '\n' + 1, (before.reverse.takeWhile (· != '\n')).length + 1)

/-- The wording of a fault in a text. -/
def Fault.message (text : List Char) : Fault → String
  | .malformed cause offset =>
    let (line, column) := lineAndColumn text offset
    s!"{cause.message}: line {line} column {column} (char {offset})"
  | .tooManyDigits count => (Decimal.LengthFault.read count).message
  | .tooDeep => "nested too deeply"

end ModuleScript.Json
