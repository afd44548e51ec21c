import ModuleScript.Pattern.Node

/-!
# Matching

A pattern is matched from a place in a text by trying its alternatives in order and going back
when what follows does not fit, so that among all ways to match the first in that order is
found. A round of a repetition that consumes nothing is its last.
-/

namespace ModuleScript.Pattern

/-- A piece of a text: so many characters of what follows a place. -/
structure Span where
  rest : List Char
  length : Nat
  deriving DecidableEq, Repr

/-- The characters of a piece. -/
def Span.text (s : Span) : String := String.ofList (s.rest.take s.length)

/-- A place in a text, and the groups matched on the way there, latest first. -/
structure State where
  offset : Nat
  before : Option Char
  rest : List Char
  captures : List (Nat × Span) := []
  deriving DecidableEq, Repr

namespace State

/-- The start of a text. -/
def start (text : List Char) : State := { offset := 0, before := none, rest := text }

/-- The place one character further on. -/
def advance (s : State) (c : Char) (rest : List Char) : State :=
  { s with offset := s.offset + 1, before := some c, rest }

/-- Keep the text between an earlier place and this one as a group. -/
def capture (s : State) (index : Nat) (opened : State) : State :=
  { s with captures := (index, ⟨opened.rest, s.offset - opened.offset⟩) :: s.captures }

/-- The text that a group matched last, if it took part. -/
def group? (s : State) (index : Nat) : Option String :=
  (s.captures.lookup index).map Span.text

/-- Whether word characters are on exactly one side. -/
def atWordEdge (s : State) : Bool :=
  s.before.any Text.isWord != s.rest.head?.any Text.isWord

/-- Whether the text is empty. -/
def isAlone (s : State) : Bool := s.before.isNone && s.rest.isEmpty

end State

/-- Whether a condition holds at a place. -/
def Anchor.holds : Anchor → State → Bool
  | .textStart, s => s.offset == 0
  | .lineStart, s => s.offset == 0 || s.before == some '\n'
  | .textEnd, s => s.rest == [] || s.rest == ['\n']
  | .absoluteEnd, s => s.rest.isEmpty
  | .wordEdge, s => s.atWordEdge
  | .noWordEdge, s => !(s.atWordEdge || s.isAlone)

/-- A way on: what is still to be matched from a place. -/
abbrev Onward := State → Option State

/-- Exactly `n` rounds. -/
def repeatExactly (round : State → Onward → Option State) : Nat → State → Onward → Option State
  | 0, s, k => k s
  | n + 1, s, k => round s fun s' ↦ repeatExactly round n s' k

/-- Rounds up to a greatest number, if there is one, the last one at the latest when it consumes
nothing. There are no more rounds than `fuel` has characters. -/
def repeatUpTo (round : State → Onward → Option State) (greedy : Bool) :
    (fuel : List Char) → (most : Option Nat) → State → Onward → Option State
  | [], _, s, k | _, some 0, s, k => k s
  | _ :: fuel, most, s, k =>
    let again := fun (_ : Unit) ↦ round s fun s' ↦
      if s'.offset = s.offset then k s'
      else repeatUpTo round greedy fuel (most.map (· - 1)) s' k
    if greedy then (again ()).orElse fun _ ↦ k s else (k s).orElse again

/-- Match a node from a place and then go on; the first way that succeeds to its end. -/
def Node.run : Node → State → Onward → Option State
  | .empty, s, k => k s
  | .char set, s, k =>
    match s.rest with
    | [] => none
    | c :: rest => if set.contains c then k (s.advance c rest) else none
  | .anchor a, s, k => if a.holds s then k s else none
  | .seq first second, s, k => first.run s fun s' ↦ second.run s' k
  | .alt first second, s, k => (first.run s k).orElse fun _ ↦ second.run s k
  | .loop body least most greedy, s, k =>
    repeatExactly body.run least s fun s' ↦
      repeatUpTo body.run greedy (' ' :: s'.rest) (most.map (· - least)) s' k
  | .group index body, s, k => body.run s fun s' ↦ k (s'.capture index s)
  | .atomic body, s, k => (body.run s some).bind k
  | .ahead true body, s, k => (body.run s some).bind fun s' ↦ k { s with captures := s'.captures }
  | .ahead false body, s, k => if (body.run s some).isSome then none else k s

/-- A match: where it starts, and the place and groups at its end. -/
structure Match where
  start : Nat
  stop : State
  deriving DecidableEq, Repr

/-- The text that a group matched, if it took part. -/
def Match.group? (m : Match) (index : Nat) : Option String := m.stop.group? index

namespace Node

/-- The match that starts at a place. -/
def matchAt? (n : Node) (s : State) : Option Match := (n.run s some).map (⟨s.offset, ·⟩)

/-- The match at a place that consumes something. -/
def matchSomeAt? (n : Node) (s : State) : Option Match :=
  (n.run s fun s' ↦ if s'.offset = s.offset then none else some s').map (⟨s.offset, ·⟩)

/-- The match at the start of a text. -/
def matchStart? (n : Node) (text : List Char) : Option Match := n.matchAt? (.start text)

/-- The match that covers a whole text. -/
def matchWhole? (n : Node) (text : List Char) : Option Match :=
  (n.run (.start text) fun s' ↦ if s'.rest.isEmpty then some s' else none).map (⟨0, ·⟩)

/-- Whether the node matches somewhere from a place on. -/
def occursFrom (n : Node) (offset : Nat) (before : Option Char) : List Char → Bool
  | [] => (n.run { offset, before, rest := [] } some).isSome
  | c :: rest =>
    (n.run { offset, before, rest := c :: rest } some).isSome ||
      occursFrom n (offset + 1) (some c) rest

/-- Whether the node matches somewhere in a text. -/
def occursIn (n : Node) (text : List Char) : Bool := n.occursFrom 0 none text

/-- The matches that a scan takes at one place: one, and after an empty one perhaps another
that is not empty. -/
def matchesAt (n : Node) (s : State) : List Match :=
  match n.matchAt? s with
  | none => []
  | some m =>
    if m.stop.offset = s.offset then m :: (n.matchSomeAt? s).toList else [m]

/-- The matches of a scan from a place on, where nothing before the offset `free` may be used. -/
def scanFrom (n : Node) (free offset : Nat) (before : Option Char) : List Char → List Match
  | [] => if offset < free then [] else n.matchesAt { offset, before, rest := [] }
  | c :: rest =>
    if offset < free then scanFrom n free (offset + 1) (some c) rest
    else
      let found := n.matchesAt { offset, before, rest := c :: rest }
      let free := (found.getLast?.map (·.stop.offset)).getD free
      found ++ scanFrom n free (offset + 1) (some c) rest

/-- The matches of a scan from left to right, none of which overlaps an earlier one. -/
def scan (n : Node) (text : List Char) : List Match := n.scanFrom 0 0 none text

end Node

end ModuleScript.Pattern
