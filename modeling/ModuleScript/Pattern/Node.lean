import ModuleScript.Pattern.CharSet

/-!
# The tree of a pattern

A pattern is built from character sets and conditions on a place by sequence, ordered
alternatives, repetition, numbered groups and looking ahead. There are no trees for looking behind,
for references to groups, for conditions on groups, and for letters of either case.
-/

namespace ModuleScript.Pattern

/-- Conditions on a place in a text. -/
inductive Anchor where
  /-- The start of the text. -/
  | textStart
  /-- The start of a line. -/
  | lineStart
  /-- The end of the text, or before a line feed that ends it. -/
  | textEnd
  /-- The very end of the text. -/
  | absoluteEnd
  /-- Between a word character and something else. -/
  | wordEdge
  /-- Not between a word character and something else, in a text that is not empty. -/
  | noWordEdge
  deriving DecidableEq, Repr

/-- The tree of a pattern. -/
inductive Node where
  | empty
  | char (set : CharSet)
  | anchor (a : Anchor)
  | seq (first second : Node)
  /-- Either of two, the first being preferred. -/
  | alt (first second : Node)
  /-- At least `least` rounds and at most `most`; as many as possible when `greedy`. -/
  | loop (body : Node) (least : Nat) (most : Option Nat) (greedy : Bool)
  /-- What the body matches is kept under the number `index`. -/
  | group (index : Nat) (body : Node)
  /-- Only the first way in which the body matches is tried. -/
  | atomic (body : Node)
  /-- The body matches from this place, or does not when not `positive`; nothing is consumed, and
  what a body that matches has kept remains. -/
  | ahead (positive : Bool) (body : Node)
  deriving DecidableEq, Repr

namespace Node

/-- The nodes one after the other. -/
def concat (nodes : List Node) : Node := nodes.foldr seq empty

/-- Any of the nodes, earlier ones being preferred. -/
def anyOf : List Node → Node
  | [] => empty
  | [n] => n
  | n :: rest => alt n (anyOf rest)

/-- One node for each character of a text. -/
def letters (s : String) : List Node := s.toList.map fun c ↦ char (.single c)

/-- Exactly this text. -/
def literal (s : String) : Node := concat (letters s)

/-- Any number of rounds, as many as possible. -/
def star (n : Node) : Node := loop n 0 none true

/-- At least one round, as many as possible. -/
def plus (n : Node) : Node := loop n 1 none true

/-- Any number of rounds, as few as possible. -/
def lazyStar (n : Node) : Node := loop n 0 none false

/-- Rounds of which neither their number nor the way in which each matches is tried again. -/
def possessive (n : Node) (least : Nat) (most : Option Nat) : Node :=
  atomic (loop (atomic n) least most true)

/-- One round or none, one being preferred. -/
def opt (n : Node) : Node := loop n 0 (some 1) true

/-- One character of a set. -/
def oneOf (items : List CharItem) : Node := char { items }

/-- Any number of blanks. -/
def blanks : Node := star (char (.ofClass .blank))

/-- At least one blank. -/
def someBlanks : Node := plus (char (.ofClass .blank))

end Node

end ModuleScript.Pattern
