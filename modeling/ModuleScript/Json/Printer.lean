import ModuleScript.Data.Value.Display
import ModuleScript.Text.Hex

/-!
# Printing JSON

A value is printed with one item to a line, two spaces of indentation for each level, and
nothing but ASCII: other characters are given by their code units. What JSON has no form for is
printed by its nearest one: a pair or a set as a list, a date or bytes as a string.
-/

namespace ModuleScript.Json

/-- A code unit as an escape. -/
def unitEscape (n : Nat) : List Char := '\\' :: 'u' :: Text.hexDigits 4 n

/-- One character of a string. -/
def escapeChar (c : Char) : List Char :=
  match c with
  | '"' => ['\\', '"']
  | '\\' => ['\\', '\\']
  | '\n' => ['\\', 'n']
  | '\r' => ['\\', 'r']
  | '\t' => ['\\', 't']
  | '\x08' => ['\\', 'b']
  | '\x0c' => ['\\', 'f']
  | _ =>
    if ' ' ≤ c && c ≤ '~' then [c]
    else if c.toNat < 0x10000 then unitEscape c.toNat
    else
      let high := (c.toNat - 0x10000) / 0x400
      let low := (c.toNat - 0x10000) % 0x400
      unitEscape (0xd800 + high) ++ unitEscape (0xdc00 + low)

/-- A string between its marks. -/
def printString (s : String) : String :=
  String.ofList ('"' :: (s.toList.flatMap escapeChar ++ ['"']))

/-- A broken string between its marks. -/
def printBroken (t : BrokenText) : String :=
  String.ofList ('"' :: (t.points.flatMap (fun n ↦
    if n.isValidChar then escapeChar (Char.ofNat n) else unitEscape n) ++ ['"']))

/-- The name of a field. -/
def printName : Value → String
  | .broken t => printBroken t
  | v => printString v.display

/-- A line feed and the indentation of a level. -/
def newLine (level : Nat) : String := "\n" ++ String.ofList (List.replicate (2 * level) ' ')

/-- Printed items of a level between brackets, or nothing but the brackets. -/
def bracketed (opening closing : String) (level : Nat) (items : List String) : String :=
  if items.isEmpty then opening ++ closing
  else
    opening ++ newLine (level + 1) ++ ("," ++ newLine (level + 1)).intercalate items ++
      newLine level ++ closing

mutual

/-- A value at a level of indentation. -/
def printAt (level : Nat) : Value → String
  | .text s => printString s
  | .broken t => printBroken t
  | .list items => bracketed "[" "]" level (printItems (level + 1) items)
  | .dict pairs => bracketed "\x7b" "\x7d" level (printFields (level + 1) pairs)
  | .null => "null"
  | .bool b => if b then "true" else "false"
  | .int n => toString n
  | .float .nan => "NaN"
  | .float (.infinite negative) => if negative then "-Infinity" else "Infinity"
  | .float x => x.text
  | .pair first second =>
    bracketed "[" "]" level [printAt (level + 1) first, printAt (level + 1) second]
  | .set items => bracketed "[" "]" level (printItems (level + 1) items)
  | .knot _ body => printAt level body
  | .again _ => "null"
  | v => printString v.display

/-- The items of a list. -/
def printItems (level : Nat) : List Value → List String
  | [] => []
  | v :: rest => printAt level v :: printItems level rest

/-- The fields of an object. -/
def printFields (level : Nat) : List (Value × Value) → List String
  | [] => []
  | (k, v) :: rest =>
    (printName k ++ ": " ++ printAt level v) :: printFields level rest

end

/-- The printed form of a value. -/
def print (v : Value) : String := printAt 0 v

end ModuleScript.Json
