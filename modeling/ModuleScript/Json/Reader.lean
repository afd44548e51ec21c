import ModuleScript.Data.Value.Equality
import ModuleScript.Json.Fault
import ModuleScript.Text.Hex
import ModuleScript.Text.Word

/-!
# Reading JSON

A JSON text is read into a value; of fields with the same name the last one counts. Besides
the standard's values, the numbers `NaN`, `Infinity` and `-Infinity` are read. The first fault
ends the reading.
-/

namespace ModuleScript.Json

open Text (isAsciiDigit)

/-- A place in a text: its offset and the text from there. -/
structure Cursor where
  offset : Nat
  rest : List Char
  deriving DecidableEq, Repr

namespace Cursor

/-- The place `n` characters further on. -/
def skip (c : Cursor) (n : Nat) : Cursor := ⟨c.offset + n, c.rest.drop n⟩

/-- The place after white space. -/
def skipBlanks (c : Cursor) : Cursor :=
  c.skip (c.rest.takeWhile fun ch ↦ ch == ' ' || ch == '\t' || ch == '\n' || ch == '\r').length

/-- The fault at a place within so many lists and objects. -/
def fault {α : Type} (c : Cursor) (depth : Nat) (cause : Cause) : Except Fault α :=
  .error (.within depth (.malformed cause c.offset))

end Cursor

/-- The character that an escape letter stands for. -/
def unescape? : Char → Option Char
  | '"' => some '"'
  | '\\' => some '\\'
  | '/' => some '/'
  | 'b' => some '\x08'
  | 'f' => some '\x0c'
  | 'n' => some '\n'
  | 'r' => some '\r'
  | 't' => some '\t'
  | _ => none

/-- The code units of a string that started at `start`, up to its closing mark; `units` are
those before, latest first. An escape of four digits may not end the text. -/
def stringUnits (start : Nat) (units : List Nat) :
    (offset : Nat) → List Char → Except Fault (List Nat × Cursor)
  | _, [] | _, ['\\'] => .error (.malformed .openString start)
  | offset, '"' :: rest => .ok (units.reverse, ⟨offset + 1, rest⟩)
  | offset, '\\' :: 'u' :: a :: b :: c :: d :: e :: rest =>
    match Text.hexNumber? [a, b, c, d] with
    | some n => stringUnits start (n :: units) (offset + 6) (e :: rest)
    | none => .error (.malformed .badUnicodeEscape (offset + 1))
  | offset, '\\' :: c :: rest =>
    match unescape? c with
    | some d => stringUnits start (d.toNat :: units) (offset + 2) rest
    | none =>
      if c == 'u' then .error (.malformed .badUnicodeEscape (offset + 1))
      else .error (.malformed .badEscape offset)
  | offset, c :: rest =>
    if c < ' ' then .error (.malformed .controlCharacter offset)
    else stringUnits start (c.toNat :: units) (offset + 1) rest

/-- The code points of code units: two halves next to each other make one character, and a half
that stands alone is kept. -/
def joinUnits : List Nat → List Nat
  | [] => []
  | [n] => [n]
  | n :: m :: rest =>
    if 0xd800 ≤ n && n < 0xdc00 && 0xdc00 ≤ m && m < 0xe000 then
      (0x10000 + (n - 0xd800) * 0x400 + (m - 0xdc00)) :: joinUnits rest
    else n :: joinUnits (m :: rest)

/-- The string whose opening mark is at a place within so many lists and objects; it is broken if
it holds a half of a pair alone. -/
def string (depth : Nat) (c : Cursor) : Except Fault (Value × Cursor) := do
  let (units, c) ←
    (stringUnits c.offset [] (c.offset + 1) (c.rest.drop 1)).mapError (.within depth)
  return (.ofPoints (joinUnits units), c)

/-- The value of a run of decimal digits. -/
def number (digits : List Char) : Nat := digits.foldl (fun n c ↦ n * 10 + (c.toNat - 48)) 0

/-- The whole part of a number: a zero, or digits of which the first is none. -/
def wholeDigits : List Char → List Char
  | '0' :: _ => ['0']
  | cs => cs.takeWhile isAsciiDigit

/-- The digits after a point, if there are any. -/
def fractionDigits : List Char → List Char
  | '.' :: rest => rest.takeWhile isAsciiDigit
  | _ => []

/-- An exponent with the number of its characters, if there is one. -/
def exponent? : List Char → Option (Int × Nat)
  | mark :: rest =>
    let (negative, signLength, rest) := match rest with
      | '-' :: rest => (true, 1, rest)
      | '+' :: rest => (false, 1, rest)
      | _ => (false, 0, rest)
    let digits := rest.takeWhile isAsciiDigit
    if (mark == 'e' || mark == 'E') && !digits.isEmpty then
      let n : Int := number digits
      some (if negative then -n else n, 1 + signLength + digits.length)
    else none
  | [] => none

/-- The number at a place; a point or an exponent makes it a floating-point number. -/
def numberAt (c : Cursor) : Except Fault (Value × Cursor) := do
  let negative := c.rest.head? == some '-'
  let unsigned := if negative then c.skip 1 else c
  let whole := wholeDigits unsigned.rest
  if whole.isEmpty then c.fault 0 .value
  else
    let c := unsigned.skip whole.length
    let fraction := fractionDigits c.rest
    let c := if fraction.isEmpty then c else c.skip (fraction.length + 1)
    match fraction, exponent? c.rest with
    | [], none =>
      if Decimal.digitLimit < whole.length then throw (.tooManyDigits whole.length)
      let n : Int := number whole
      return (.int (if negative then -n else n), c)
    | _, power =>
      let (power, length) := power.getD (0, 0)
      let digits := number (whole ++ fraction)
      return (.float (.ofDecimal negative digits (power - fraction.length)), c.skip length)

/-- The words that are values. -/
def words : List (String × Value) :=
  [("null", .null), ("true", .bool true), ("false", .bool false), ("NaN", .float .nan),
   ("Infinity", .float (.infinite false)), ("-Infinity", .float (.infinite true))]

/-- Whether a value is a number. -/
def isNumber : Value → Bool
  | .float _ => true
  | _ => false

/-- A word or a number within so many lists and objects. -/
def scalarAt (depth : Nat) (c : Cursor) : Except Fault (Value × Cursor) :=
  match words.find? fun (word, _) ↦ word.toList.isPrefixOf c.rest with
  | some (word, value) =>
    if isNumber value && wordDepth < depth then .error .tooDeep
    else .ok (value, c.skip word.length)
  | none => numberAt c

mutual

/-- The value at a place, `depth` being the number of lists and objects around it. -/
def valueAt : (fuel depth : Nat) → Cursor → Except Fault (Value × Cursor)
  | 0, _, _ => .error .tooDeep
  | fuel + 1, depth, c =>
    match c.rest with
    | '"' :: _ => string depth c
    | '{' :: _ => do
      if depthLimit ≤ depth then throw .tooDeep
      let inside := (c.skip 1).skipBlanks
      if inside.rest.head? == some '}' then return (.dict [], inside.skip 1)
      let (pairs, c) ← fieldsAt fuel depth [] inside
      return (.dict pairs, c)
    | '[' :: _ => do
      if depthLimit ≤ depth then throw .tooDeep
      let inside := (c.skip 1).skipBlanks
      if inside.rest.head? == some ']' then return (.list [], inside.skip 1)
      let (items, c) ← itemsAt fuel depth [] inside
      return (.list items, c)
    | _ => scalarAt depth c

/-- The items of a list from a place up to its closing bracket; `items` are those before,
latest first. -/
def itemsAt : (fuel depth : Nat) → (items : List Value) → Cursor →
    Except Fault (List Value × Cursor)
  | 0, _, _, _ => .error .tooDeep
  | fuel + 1, depth, items, c => do
    let (v, c) ← valueAt fuel (depth + 1) c
    let c := c.skipBlanks
    match c.rest with
    | ']' :: _ => return ((v :: items).reverse, c.skip 1)
    | ',' :: _ => itemsAt fuel depth (v :: items) (c.skip 1).skipBlanks
    | _ => c.fault (depth + 1) .comma

/-- The fields of an object from a place up to its closing brace; `pairs` are those before. -/
def fieldsAt : (fuel depth : Nat) → (pairs : List (Value × Value)) → Cursor →
    Except Fault (List (Value × Value) × Cursor)
  | 0, _, _, _ => .error .tooDeep
  | fuel + 1, depth, pairs, c => do
    if c.rest.head? != some '"' then c.fault (depth + 1) .fieldName
    else
      let (name, c) ← string (depth + 1) c
      let c := c.skipBlanks
      if c.rest.head? != some ':' then c.fault (depth + 1) .colon
      else
        let (v, c) ← valueAt fuel (depth + 1) (c.skip 1).skipBlanks
        let pairs := Value.put name v pairs
        let c := c.skipBlanks
        match c.rest with
        | '}' :: _ => return (pairs, c.skip 1)
        | ',' :: _ => fieldsAt fuel depth pairs (c.skip 1).skipBlanks
        | _ => c.fault (depth + 1) .comma

end

/-- Read a JSON text. -/
def read (text : List Char) : Except Fault Value := do
  if text.head? == some '\ufeff' then throw (.malformed .byteOrderMark 0)
  let (v, c) ← valueAt (2 * text.length + 2) 0 (Cursor.mk 0 text).skipBlanks
  let c := c.skipBlanks
  if c.rest.isEmpty then return v else c.fault 0 .extraData

end ModuleScript.Json
