import ModuleScript.Data.Value

/-!
# Equality of plain data

A number equals another of a different kind, and a truth value counts as zero or one. What is no
number equals nothing, but within a list or a dictionary it counts as the same one. The order of
dictionaries and sets does not matter. A dictionary holds equal keys only once.
-/

namespace ModuleScript.Value

/-- The exact ratio of a number, a truth value counting as zero or one. -/
def ratio? : Value → Option (Int × Nat)
  | bool b => some (if b then 1 else 0, 1)
  | int n => some (n, 1)
  | float (.finite negative significand exponent) =>
    let (up, down) := Decimal.Binary64.powerRatio 2 exponent
    let n : Int := significand * up
    some (if negative then -n else n, down)
  | _ => none

/-- Whether two values that hold no others are equal, numbers by their amount. -/
def sameScalar : Value → Value → Bool
  | null, null => true
  | text s, text t => s == t
  | broken s, broken t => s == t
  | bytes s, bytes t => s == t
  | date d, date e => d == e
  | moment m, moment n => m.same n
  | float (.infinite a), float (.infinite b) => a == b
  | again l, again m => l == m
  | v, w =>
    match v.ratio?, w.ratio? with
    | some (n, d), some (m, e) => n * e == m * d
    | _, _ => false

/-- The value within a knot. -/
def bare : Value → Value
  | knot _ body => body
  | v => v

/-- Whether both are the floating-point value that is no number. -/
def areNan : Value → Value → Bool
  | float .nan, float .nan => true
  | _, _ => false

mutual

/-- Whether two values are equal, dictionaries regardless of order. -/
def same (v w : Value) : Bool :=
  match v, w.bare with
  | list items, list others => sameItems items others
  | pair a b, pair c d => same a c && same b d
  | set items, set others => items.length == others.length && sameMembers items others
  | dict pairs, dict others => pairs.length == others.length && samePairs pairs others
  | knot _ body, other => same body other
  | v, w => sameScalar v w

/-- Whether two lists are equal item by item. -/
def sameItems : List Value → List Value → Bool
  | [], [] => true
  | v :: vs, w :: ws => (areNan v w || same v w) && sameItems vs ws
  | _, _ => false

/-- Whether every item has an equal one among the others. -/
def sameMembers : List Value → List Value → Bool
  | [], _ => true
  | v :: rest, others => others.any (sameScalar v) && sameMembers rest others

/-- Whether every pair has an equal one among the others. -/
def samePairs : List (Value × Value) → List (Value × Value) → Bool
  | [], _ => true
  | (k, v) :: rest, others =>
    (match others.find? fun (l, _) ↦ sameScalar k l with
     | some (_, w) => areNan v w || same v w
     | none => false) && samePairs rest others

end

/-- Only values that hold no others can be keys. -/
def isKey : Value → Bool
  | list _ | pair _ _ | set _ | dict _ | knot _ _ | again _ => false
  | _ => true

/-- Give a key a value in a dictionary; an equal key keeps its place and its form. -/
def put {α : Type} (key : Value) (value : α) : List (Value × α) → List (Value × α)
  | [] => [(key, value)]
  | (k, v) :: rest => if k.sameScalar key then (k, value) :: rest else (k, v) :: put key value rest

/-- What a dictionary holds under a key. -/
def under? {α : Type} (key : Value) (pairs : List (Value × α)) : Option α :=
  (pairs.find? (·.1.sameScalar key)).map (·.2)

/-- Add a member to a set, unless there is an equal one. -/
def addMember (items : List Value) (v : Value) : List Value :=
  if items.any (·.sameScalar v) then items else items ++ [v]

end ModuleScript.Value
