import ModuleScript.Data.Value
import ModuleScript.Decimal.DigitLimit
import ModuleScript.Decimal.Shortest
import ModuleScript.Text.Quoted

/-!
# Written forms of plain data

A value has two written forms: as it stands, and quoted in a message. A value that is met again
within itself is written with dots in its place. A whole number with too many digits is not
written at all.
-/

namespace ModuleScript.Value

/-- How a list or dictionary is written within itself. -/
def dots : Value → String
  | list _ => "[...]"
  | _ => "\x7b...\x7d"

mutual

/-- The form in a message, within the values under some labels. -/
def quotedWithin (around : List (Nat × String)) : Value → String
  | null => "None"
  | bool true => "True"
  | bool false => "False"
  | int n => toString n
  | float x => x.text
  | date d => d.quoted
  | moment m => m.quoted
  | text s => Text.quote s
  | broken t => t.quote
  | bytes bs => Text.quoteBytes bs
  | list items => "[" ++ ", ".intercalate (quotedItems around items) ++ "]"
  | pair first second =>
    "(" ++ quotedWithin around first ++ ", " ++ quotedWithin around second ++ ")"
  | set [] => "set()"
  | set (v :: rest) => "\x7b" ++ ", ".intercalate (quotedItems around (v :: rest)) ++ "\x7d"
  | dict pairs => "\x7b" ++ ", ".intercalate (quotedPairs around pairs) ++ "\x7d"
  | knot label body =>
    (around.lookup label).getD (quotedWithin ((label, body.dots) :: around) body)
  | again label => (around.lookup label).getD ""

/-- The forms of items. -/
def quotedItems (around : List (Nat × String)) : List Value → List String
  | [] => []
  | v :: rest => quotedWithin around v :: quotedItems around rest

/-- The forms of the pairs of a dictionary. -/
def quotedPairs (around : List (Nat × String)) : List (Value × Value) → List String
  | [] => []
  | (k, v) :: rest =>
    (quotedWithin around k ++ ": " ++ quotedWithin around v) :: quotedPairs around rest

end

/-- The form in a message: texts are quoted, lists and dictionaries bracketed. -/
def quoted (v : Value) : String := v.quotedWithin []

/-- The form as it stands: texts, dates and moments are themselves, everything else is as in a
message. -/
def display : Value → String
  | text s => s
  | broken t => t.shown
  | date d => d.text
  | moment m => m.text
  | v => v.quoted

mutual

/-- Whether all whole numbers in a value are within the limit of numerals. -/
def isWritable : Value → Bool
  | int n => Decimal.isWritable n
  | list items | set items => areWritable items
  | pair first second => isWritable first && isWritable second
  | dict pairs => pairsAreWritable pairs
  | knot _ body => isWritable body
  | _ => true

/-- The same for all items. -/
def areWritable : List Value → Bool
  | [] => true
  | v :: rest => isWritable v && areWritable rest

/-- The same for all keys and values. -/
def pairsAreWritable : List (Value × Value) → Bool
  | [] => true
  | (k, v) :: rest => isWritable k && isWritable v && pairsAreWritable rest

end

/-- The form as it stands, unless it cannot be written. -/
def display? (v : Value) : Except Decimal.LengthFault String :=
  if v.isWritable then .ok v.display else .error .written

/-- The form as it stands as a text of its own, which is broken if the value is a broken text. -/
def form : Value → Value
  | broken t => broken t
  | v => text v.display

/-- The same, unless it cannot be written. -/
def form? (v : Value) : Except Decimal.LengthFault Value :=
  if v.isWritable then .ok v.form else .error .written

end ModuleScript.Value
