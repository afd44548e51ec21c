import ModuleScript.Calendar.Moment
import ModuleScript.Decimal.Binary64
import ModuleScript.Text.Broken

/-!
# Plain data

The values that data files hold: null, truth values, numbers, dates, texts, bytes, lists, sets,
and dictionaries in insertion order. A list or dictionary may contain itself: it is then tied
under a label, and the label stands for it where it is met again. What such a value offers is
tied in its turn, so that no label is ever met outside of its knot.
-/

namespace ModuleScript

/-- A value of a data file. -/
inductive Value where
  | null
  | bool (b : Bool)
  | int (n : Int)
  | float (x : Decimal.Binary64)
  | date (d : Calendar.Date)
  | moment (m : Calendar.Moment)
  | text (s : String)
  /-- A text with a half of a surrogate pair in it. -/
  | broken (t : BrokenText)
  | bytes (bs : List UInt8)
  | list (items : List Value)
  /-- An item of a list of pairs. -/
  | pair (first second : Value)
  | set (items : List Value)
  | dict (pairs : List (Value × Value))
  /-- A value that is met again within itself. -/
  | knot (label : Nat) (body : Value)
  /-- The value that is tied under a label. -/
  | again (label : Nat)
  deriving Repr

namespace Value

instance : Inhabited Value := ⟨null⟩

/-- A text, or null when there is none. -/
def ofText? : Option String → Value
  | some s => text s
  | none => null

/-- The text of code points, a broken one if not all of them are characters. -/
def ofPoints (points : List Nat) : Value :=
  if h : (∀ n ∈ points, n ≤ 0x10ffff) ∧ ∃ n ∈ points, ¬ n.isValidChar then
    broken ⟨points, h.1, h.2⟩
  else text (String.ofList (points.map Char.ofNat))

/-- A dictionary whose keys are texts. -/
def record (fields : List (String × Value)) : Value :=
  dict (fields.map fun (name, value) ↦ (text name, value))

/-- A list of texts. -/
def texts (items : List String) : Value := list (items.map text)

/-- Everything but null, false, zero and what is empty counts as true. -/
def isTruthy : Value → Bool
  | null => false
  | bool b => b
  | int n => n != 0
  | float x => x.isNonzero
  | text s => !s.isEmpty
  | bytes bs => !bs.isEmpty
  | list items | set items => !items.isEmpty
  | dict pairs => !pairs.isEmpty
  | knot _ body => body.isTruthy
  | broken _ | date _ | moment _ | pair _ _ | again _ => true

/-- The text that a value is, if it is one that is not broken. -/
def toText? : Value → Option String
  | text s => some s
  | _ => none

/-- The code points of a text, broken or not. -/
def points? : Value → Option (List Nat)
  | text s => some (s.toList.map Char.toNat)
  | broken t => some t.points
  | _ => none

mutual

/-- Put in the values that are found for labels, wherever such a label is met outside of its own
knot. -/
def resolve (find? : Nat → Option Value) : Value → Value
  | again label => (find? label).getD (again label)
  | list items => list (resolveItems find? items)
  | pair first second => pair (resolve find? first) (resolve find? second)
  | set items => set (resolveItems find? items)
  | dict pairs => dict (resolvePairs find? pairs)
  | knot label body => knot label (resolve (fun l ↦ if l = label then none else find? l) body)
  | v => v

/-- Put values in within a list. -/
def resolveItems (find? : Nat → Option Value) : List Value → List Value
  | [] => []
  | v :: rest => resolve find? v :: resolveItems find? rest

/-- Put values in within pairs. -/
def resolvePairs (find? : Nat → Option Value) : List (Value × Value) → List (Value × Value)
  | [] => []
  | (k, v) :: rest => (resolve find? k, resolve find? v) :: resolvePairs find? rest

end

/-- Put a value in wherever its label is met. -/
def resolveLabel (v : Value) (label : Nat) (target : Value) : Value :=
  v.resolve fun l ↦ if l = label then some target else none

/-- The value with the items of a knot tied to it. -/
def untied : Value → Value
  | knot label body => body.resolveLabel label (knot label body)
  | v => v

/-- The pairs of a dictionary. -/
def pairs? (v : Value) : Option (List (Value × Value)) :=
  match v.untied with
  | dict pairs => some pairs
  | _ => none

/-- What a value offers one by one: the items of a list, the keys of a dictionary, the characters
of a text, also of a broken one, and the bytes as numbers. -/
def elements? (v : Value) : Option (List Value) :=
  match v.untied with
  | list items | set items => some items
  | pair first second => some [first, second]
  | dict pairs => some (pairs.map (·.1))
  | text s => some (s.toList.map fun c ↦ text c.toString)
  | broken t => some (t.points.map fun n ↦ ofPoints [n])
  | bytes bs => some (bs.map fun b ↦ int b.toNat)
  | _ => none

/-- The value itself if it counts as true, else the other one. -/
def orElse (v other : Value) : Value := if v.isTruthy then v else other

/-- Whether the value is a broken text. -/
def isBroken : Value → Bool
  | broken _ => true
  | _ => false

/-- Whether the value is null. -/
def isNull : Value → Bool
  | null => true
  | _ => false

/-- Whether the value is this text. -/
def isText (s : String) : Value → Bool
  | text t => t == s
  | _ => false

/-- The value under a key that is a text. -/
def get? (name : String) (pairs : List (Value × Value)) : Option Value :=
  (pairs.find? fun (key, _) ↦ key.isText name).map (·.2)

end Value

end ModuleScript
