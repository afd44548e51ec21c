import ModuleScript.Pattern.Match
import ModuleScript.Pattern.Token

/-!
# Patterns

A pattern is what a scan of it finds in a text, beside its text and the number of its groups:
patterns come compiled, and nothing else is ever asked of them.

Written patterns are read here as trees, from their tokens with a stack of the groups still open.
Reading fails when a group is not closed, when a closing mark has no group, when there is nothing
that a repetition could repeat, and when groups are nested too deeply. What is wrong first in the
text is what it fails with. The header of the tokens says which patterns are not read.
-/

namespace ModuleScript

/-- A pattern: its text, the number of its groups, and the matches that a scan of a text finds, as
`finditer` gives them. -/
structure Pattern where
  source : String
  groups : Nat
  scan : String → List Pattern.Match

namespace Pattern

instance : Inhabited Pattern := ⟨⟨"", 0, fun _ ↦ []⟩⟩

/-- Whether a scan finds something in a text, as `search` tells. -/
def occursIn (p : Pattern) (text : String) : Bool := !(p.scan text).isEmpty

/-- A pattern that is read: its text, its tree, and the number of its groups. -/
structure Parsed where
  source : String
  node : Node
  groups : Nat
  deriving DecidableEq, Repr

/-- The pattern of a tree. -/
def Parsed.pattern (p : Parsed) : Pattern where
  source := p.source
  groups := p.groups
  scan text := p.node.scan text.toList

/-- An element of a sequence; conditions and repetitions cannot be repeated. -/
inductive Element where
  | plain (n : Node)
  | condition (a : Anchor)
  | repetition (n : Node)
  deriving DecidableEq, Repr

/-- The tree of an element. -/
def Element.node : Element → Node
  | .plain n | .repetition n => n
  | .condition a => .anchor a

/-- What becomes of the body of a group: nothing, it keeps its text under a number, or it is only
looked at. -/
inductive GroupKind where
  | plain
  | kept (index : Nat)
  | ahead (positive : Bool)

/-- The tree of a group of a kind. -/
def GroupKind.node (body : Node) : GroupKind → Node
  | .plain => body
  | .kept index => .group index body
  | .ahead positive => .ahead positive body

/-- What surrounds the group under way: its kind, the number of characters from its start to the end
of the text, the alternatives already complete and the elements of the last one, both latest
first. -/
structure Frame where
  kind : GroupKind
  start : Nat := 0
  alternatives : List Node := []
  elements : List Element := []

namespace Frame

/-- Add an element at the end. -/
def push (f : Frame) (e : Element) : Frame := { f with elements := e :: f.elements }

/-- The sequence under way. -/
def sequence (f : Frame) : Node := .concat (f.elements.reverse.map Element.node)

/-- Close the alternative under way. -/
def closeAlternative (f : Frame) : Frame :=
  { f with alternatives := f.sequence :: f.alternatives, elements := [] }

/-- The tree of the whole frame. -/
def node (f : Frame) : Node :=
  f.kind.node (Node.anyOf (f.sequence :: f.alternatives).reverse)

/-- Repeat the last element. -/
def repeatLast (f : Frame) (least : Nat) (most : Option Nat) (preference : Preference) :
    Except SyntaxFault Frame :=
  match f.elements with
  | [] | .condition _ :: _ => .error .nothingToRepeat
  | .repetition _ :: _ => .error .repeatedRepeat
  | .plain n :: rest =>
    .ok { f with elements := .repetition (n.repeated least most preference) :: rest }

end Frame

/-- Reading under way: the innermost frame, those around it, the number of groups met so far, and
those of them that have names. -/
structure Reading where
  current : Frame := { kind := .plain }
  outer : List Frame := []
  groups : Nat := 0
  names : List (List Char × Nat) := []

namespace Reading

/-- The greatest number of groups around a place. -/
def depthLimit : Nat := 493

/-- Whether the reading is within a group of a number. -/
def isWithin (r : Reading) (index : Nat) : Bool :=
  (r.current :: r.outer).any fun f ↦
    match f.kind with
    | .kept i => i == index
    | _ => false

/-- Open a group of a kind that starts `start` characters before the end of the text, when `left`
characters are left. -/
def openFrame (r : Reading) (kind : GroupKind) (start left : Nat) : Except Stop Reading :=
  if r.outer.length < depthLimit then
    .ok { r with current := { kind, start }, outer := r.current :: r.outer }
  else .error (.limit .tooDeep left)

/-- Open a group that keeps its text. -/
def openGroup (r : Reading) (start left : Nat) : Except Stop Reading := do
  return { ← r.openFrame (.kept (r.groups + 1)) start left with groups := r.groups + 1 }

/-- Open a group with a name of its own. -/
def openNamed (r : Reading) (name : List Char) (start left : Nat) : Except Stop Reading :=
  match r.names.lookup name with
  | some earlier =>
    .error (.malformed (.repeatedName name (r.groups + 1) earlier) left (name.length + 1))
  | none => do return { ← r.openGroup start left with names := (name, r.groups + 1) :: r.names }

/-- Refer to a group, in so many characters. -/
def refer (r : Reading) (index length left : Nat) : Except Stop Reading :=
  .error <|
    if r.groups < index then .malformed (.badReference index) left (length - 1)
    else if r.isWithin index then .malformed .openReference left length
    else .limit .unsupported left

/-- Take one token that starts `start` characters before the end of the text, when `left` are left
behind it. A repetition within the greatest number of groups is too deep. -/
def step (r : Reading) (start left : Nat) : Token → Except Stop Reading
  | .char set => .ok { r with current := r.current.push (.plain (.char set)) }
  | .anchor a => .ok { r with current := r.current.push (.condition a) }
  | .bar => .ok { r with current := r.current.closeAlternative }
  | .groupStart => r.openGroup start left
  | .namedStart name => r.openNamed name start left
  | .plainStart => r.openFrame .plain start left
  | .aheadStart positive => r.openFrame (.ahead positive) start left
  | .reference index => r.refer index (start - left) left
  | .groupEnd =>
    match r.outer with
    | [] => .error (.malformed .strayClose start)
    | f :: outer => .ok { r with current := f.push (.plain r.current.node), outer }
  | .times least most preference =>
    if r.outer.length < depthLimit then do
      -- The mark of the preference is not read before the bounds are found fit.
      let left := if preference = .greedy then left else left + 1
      let current ← (r.current.repeatLast least most preference).mapError
        (.malformed · left (start - left))
      return { r with current }
    else .error (.limit .tooDeep left)

/-- Take the tokens of a text of at most `fuel` characters. -/
def readAll : (fuel : Nat) → Reading → List Char → Except Stop Reading
  | 0, r, _ | _, r, [] => .ok r
  | fuel + 1, r, c :: rest => do
    let (token, rest') ← Token.next c rest
    readAll fuel (← r.step (rest.length + 1) rest'.length token) rest'

/-- Read a text up to its end, where no group is open. -/
def ofText? (text : List Char) : Except Stop Reading := do
  let r ← readAll text.length {} text
  if r.outer.isEmpty then return r
  else throw (.malformed .openGroup 0 r.current.start)

/-- What becomes of a reading when a backslash that stands alone follows: it is found wrong as soon
as the token before it is taken. -/
def beforeLoneEscape (result : Except Stop Reading) : Except Stop Reading :=
  match result with
  | .error stop => .error (if stop.left = 0 then .malformed .loneEscape 0 else stop)
  | .ok _ => .error (.malformed .loneEscape 0)

/-- Read a pattern, which may end in a backslash that stands alone. -/
def ofPattern? (pattern : List Char) : Except Fault Reading :=
  let text := Token.withoutLoneEscape pattern
  let unread := pattern.length - text.length
  (if unread = 0 then ofText? text else beforeLoneEscape (ofText? text)).mapError
    (·.fault pattern unread)

end Reading

/-- Read a written pattern as a tree. -/
def parse? (source : String) : Except Fault Parsed := do
  let r ← Reading.ofPattern? source.toList
  return { source, node := r.current.node, groups := r.groups }

/-- Read a written pattern. -/
def ofString? (source : String) : Except Fault Pattern := (parse? source).map (·.pattern)

/-- What reads as a tree is compiled to the pattern of the tree. -/
theorem ofString?_eq_ok {source : String} {p : Parsed} (h : (parse? source).toOption = some p) :
    ofString? source = .ok p.pattern := by
  rw [ofString?]
  cases hread : parse? source with
  | ok q =>
    rw [hread] at h
    rw [Option.some.inj h]
    rfl
  | error fault =>
    rw [hread] at h
    exact absurd h (by simp [Except.toOption])

end Pattern

end ModuleScript
