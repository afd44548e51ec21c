import ModuleScript.Text.Base64
import ModuleScript.Yaml.Timestamp

/-!
# Tags

A tag says what a node stands for. A plain scalar without a tag gets one from its text: it may
be null, a truth value, a number, a date, or a mark with a meaning within mappings; else it is a
text.
-/

namespace ModuleScript.Yaml

open Pattern Node

/-- What a node stands for. -/
inductive Tag where
  | null
  | bool
  | int
  | float
  | timestamp
  | text
  | bytes
  | list
  /-- A list of pairs; the two tags for it mean the same. -/
  | pairs
  | set
  | dict
  /-- The mark by which a mapping takes over the pairs of others. -/
  | merge
  /-- The mark of a default value. -/
  | default
  | unknown
  deriving DecidableEq, Repr

namespace Tag

/-- The start that the tags of the format share. -/
def standardStart : String := "tag:yaml.org,2002:"

/-- The tags of the format by name. -/
def standard : List (String × Tag) :=
  [("null", .null), ("bool", .bool), ("int", .int), ("float", .float), ("str", .text),
   ("timestamp", .timestamp), ("binary", .bytes), ("seq", .list), ("omap", .pairs),
   ("pairs", .pairs), ("set", .set), ("map", .dict), ("merge", .merge), ("value", .default)]

/-- The tag with a full name. -/
def ofName (name : String) : Tag :=
  ((standard.find? fun (short, _) ↦ standardStart ++ short == name).map (·.2)).getD .unknown

/-! ### Forms of plain scalars -/

/-- Decimal digits. -/
def digit : CharItem := .range '0' '9'

/-- A sign, if there is one. -/
def sign : Node := opt (oneOf [.single '+', .single '-'])

/-- Digits and low lines after a first digit. -/
def digits (first : CharItem) : List Node := [oneOf [first], star (oneOf [digit, .single '_'])]

/-- The parts of a number to the base sixty after its first one. -/
def sixties : Node :=
  plus (concat [char (.single ':'), opt (oneOf [.range '0' '5']), oneOf [digit]])

/-- An exponent, if there is one; its sign has to be there. -/
def exponent : Node :=
  opt (concat [oneOf [.single 'e', .single 'E'], oneOf [.single '+', .single '-'],
    plus (oneOf [digit])])

/-- A whole text of one of these forms. -/
def form (forms : List Node) : Node :=
  concat [anchor .textStart, anyOf forms, anchor .textEnd]

/-- One of these words. -/
def wordForm (words : List String) : Node := form (words.map literal)

/-- Words for truth. -/
def trueWords : List String :=
  ["yes", "Yes", "YES", "true", "True", "TRUE", "on", "On", "ON"]

/-- Words for falsehood. -/
def falseWords : List String :=
  ["no", "No", "NO", "false", "False", "FALSE", "off", "Off", "OFF"]

/-- Floating-point numbers: with a point, to the base sixty, infinite, or none at all. -/
def floatForm : Node :=
  let fraction := star (oneOf [digit, .single '_'])
  let point := char (.single '.')
  form [
    concat ([sign] ++ digits digit ++ [point, fraction, exponent]),
    concat ([point] ++ digits digit ++ [exponent]),
    concat ([sign] ++ digits digit ++ [sixties, point, fraction]),
    concat [sign, point, anyOf [literal "inf", literal "Inf", literal "INF"]],
    concat [point, anyOf [literal "nan", literal "NaN", literal "NAN"]]]

/-- Whole numbers: binary, octal, decimal, hexadecimal, or to the base sixty. -/
def intForm : Node :=
  let many (items : List CharItem) := plus (oneOf (.single '_' :: items))
  let nonzero : CharItem := .range '1' '9'
  form [
    concat ([sign] ++ letters "0b" ++ [many [.range '0' '1']]),
    concat ([sign] ++ letters "0" ++ [many [.range '0' '7']]),
    concat [sign, alt (literal "0") (concat (digits nonzero))],
    concat ([sign] ++ letters "0x" ++ [many [digit, .range 'a' 'f', .range 'A' 'F']]),
    concat ([sign] ++ digits nonzero ++ [sixties])]

/-- The forms in the order in which they are tried. -/
def forms : List (Node × Tag) :=
  [(wordForm (trueWords ++ falseWords), .bool), (floatForm, .float), (intForm, .int),
   (wordForm ["<<"], .merge), (wordForm ["~", "null", "Null", "NULL"], .null),
   (Timestamp.plainForm, .timestamp), (wordForm ["="], .default)]

/-- The tag of a plain scalar; nothing at all is null. -/
def ofPlain (text : String) : Tag :=
  if text.isEmpty then .null
  else ((forms.find? fun (n, _) ↦ (n.matchStart? text.toList).isSome).map (·.2)).getD .text

/-- The truth value of a word, whatever its case. -/
def truthOf (text : String) : Except Fault Value :=
  let word := Text.toLower text
  if trueWords.contains word then .ok (.bool true)
  else if falseWords.contains word then .ok (.bool false)
  else .error (.noTruthValue word)

/-- The bytes that a text in base 64 stands for. -/
def bytesOf (text : String) : Except Fault Value :=
  match Text.Base64.decode? text.toList with
  | some found =>
    if text.toList.all (·.toNat < 128) then .ok (Value.bytes found) else .error .malformed
  | none => .error .malformed

/-- What the text of a scalar means under each tag that scalars can have. -/
def reading? : Tag → Option (String → Except Fault Value)
  | .null => some fun _ ↦ .ok .null
  | .bool => some truthOf
  | .int => some intOf
  | .float => some floatOf
  | .timestamp => some Timestamp.read
  | .text => some fun text ↦ .ok (.text text)
  | .bytes => some bytesOf
  | .list | .pairs | .set | .dict | .merge | .default | .unknown => none

/-- Whether a tag is one of sequences and mappings. -/
def isCollection : Tag → Bool
  | .list | .pairs | .set | .dict => true
  | _ => false

end Tag

end ModuleScript.Yaml
