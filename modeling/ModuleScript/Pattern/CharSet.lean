import ModuleScript.Text.Blank
import ModuleScript.Text.Word

/-!
# Sets of characters in patterns

What a pattern can ask of one character: to be a given one, to lie in a range, or to be of a
named class of any script. A set lists such demands and may be complemented.
-/

namespace ModuleScript.Pattern

/-- The classes that a pattern can name. -/
inductive CharClass where
  | word
  | blank
  | digit
  deriving DecidableEq, Repr

/-- The characters of a class. -/
def CharClass.contains : CharClass → Char → Bool
  | .word, c => Text.isWord c
  | .blank, c => Text.isBlank c
  | .digit, c => Text.isDigit c

/-- One demand on a character. -/
inductive CharItem where
  | single (c : Char)
  | range (first last : Char)
  /-- Code points, not all of which need to be characters. -/
  | span (first last : Nat)
  | oneOf (cls : CharClass)
  | noneOf (cls : CharClass)
  deriving DecidableEq, Repr

/-- The characters that meet a demand. -/
def CharItem.contains : CharItem → Char → Bool
  | .single a, c => c == a
  | .range first last, c => first ≤ c && c ≤ last
  | .span first last, c => first ≤ c.toNat && c.toNat ≤ last
  | .oneOf cls, c => cls.contains c
  | .noneOf cls, c => !cls.contains c

/-- The demand for a code point, which nothing meets if it is no character. -/
def CharItem.ofCodePoint (n : Nat) : CharItem :=
  if n.isValidChar then .single (Char.ofNat n) else .span n n

/-- The code point of a demand for a single one. -/
def CharItem.codePoint? : CharItem → Option Nat
  | .single c => some c.toNat
  | .span first last => if first = last then some first else none
  | _ => none

/-- The demand for a code point between those of two demands, unless they run backwards or are
more than a single one each. -/
def CharItem.through? (first last : CharItem) : Option CharItem :=
  match first, last with
  | .single a, .single b => if b < a then none else some (.range a b)
  | _, _ =>
    match first.codePoint?, last.codePoint? with
    | some n, some m => if m < n then none else some (.span n m)
    | _, _ => none

/-- The characters that meet some of the demands, or none of them when complemented. -/
structure CharSet where
  items : List CharItem
  complemented : Bool := false
  deriving DecidableEq, Repr

/-- Membership of a character. -/
def CharSet.contains (s : CharSet) (c : Char) : Bool :=
  s.items.any (·.contains c) != s.complemented

namespace CharSet

/-- The set of one character. -/
def single (c : Char) : CharSet := { items := [.single c] }

/-- The listed characters. -/
def oneOf (cs : List Char) : CharSet := { items := cs.map .single }

/-- All but the listed characters. -/
def noneOf (cs : List Char) : CharSet := { items := cs.map .single, complemented := true }

/-- The characters of a class. -/
def ofClass (cls : CharClass) : CharSet := { items := [.oneOf cls] }

/-- Everything but a line feed. -/
def withinLine : CharSet := noneOf ['\n']

end CharSet

end ModuleScript.Pattern
