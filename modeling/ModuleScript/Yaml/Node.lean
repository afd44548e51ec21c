import ModuleScript.Data.Table
import ModuleScript.Yaml.Lexer
import ModuleScript.Yaml.Tag

/-!
# The nodes of a YAML text

A document is a tree of scalars, sequences and mappings, each with a tag. Aliases stand for
nodes that were given an anchor before, or for a sequence or mapping around them. A text holds at
most one document. Reading goes on in steps within steps, of which there may only be so many.
-/

namespace ModuleScript.Yaml

/-- A node of a document. What a sequence or mapping holds is kept under its label. -/
inductive Node where
  | scalar (tag : Tag) (text : String)
  | collection (label : Nat) (tag : Tag)
  deriving DecidableEq, Repr

/-- What a sequence or mapping holds. -/
inductive Content where
  | items (nodes : List Node)
  | pairs (nodes : List (Node × Node))
  deriving DecidableEq, Repr

instance : Inhabited Content := ⟨.items []⟩

/-- A document: its root, what its collections hold by their labels, and these labels in the order
in which the collections end. It is tied if an alias stands for a collection around it. -/
structure Document where
  root : Node
  contents : Array Content
  order : List Nat
  isTied : Bool

namespace Node

instance : Inhabited Node := ⟨scalar .null ""⟩

/-- The node where nothing is written. -/
def missing : Node := scalar .null ""

/-! ### Steps of reading -/

/-- Reading under way: the text ahead, the nodes of anchors, the short forms of tags, what the
collections hold that have ended, their labels with the latest first, and whether a collection
was met within itself. -/
structure Reading where
  lexer : Lexer
  anchors : Table String Node := ∅
  handles : Table String String := ∅
  contents : Array (Option Content) := #[]
  ended : List Nat := []
  isTied : Bool := false

/-- A step of reading. -/
abbrev Read := StateT Reading (Except Fault)

/-- The greatest number of steps that may be under way, one within another. -/
def stepLimit : Nat := 1000

/-- The next token, looked at within a number of steps. -/
def peek (steps : Nat) : Read Token := do
  let r ← get
  let lexer ← r.lexer.settle (stepLimit - steps) (r.lexer.size + 8)
  set { r with lexer }
  return lexer.ahead.head?.getD .streamEnd

/-- Go on to the next token. -/
def advance : Read Unit := modify fun r ↦
  { r with lexer := { r.lexer with ahead := r.lexer.ahead.drop 1, taken := r.lexer.taken + 1 } }

/-- Take the next token if it is this one. -/
def accept (steps : Nat) (t : Token) : Read Bool := do
  if (← peek steps) = t then
    advance
    return true
  else return false

/-- Take the next token, which has to be this one. -/
def expect (steps : Nat) (t : Token) : Read Unit := do
  if !(← accept steps t) then throw .malformed

/-- Take an anchor, if there is one. -/
def acceptAnchor (steps : Nat) : Read (Option String) := do
  match ← peek steps with
  | .anchor name =>
    advance
    return some name
  | _ => return none

/-- Take a tag, if there is one: its name with the short form at its start written out. -/
def acceptTag (steps : Nat) : Read (Option String) := do
  match ← peek steps with
  | .tag none suffix =>
    advance
    return some suffix
  | .tag (some handle) suffix =>
    advance
    match (← get).handles.find? handle with
    | some start => return some (start ++ suffix)
    | none => throw .malformed
  | _ => return none

/-- Anchor and tag before a node, in either order. -/
def properties (steps : Nat) : Read (Option String × Option String) := do
  match ← acceptAnchor steps with
  | some anchor => return (some anchor, ← acceptTag steps)
  | none =>
    let tag ← acceptTag steps
    let anchor ← if tag.isSome then acceptAnchor steps else pure none
    return (anchor, tag)

/-- The tag of a scalar. A lone exclamation mark has the tag found from the text, and a scalar
that is not plain is a text. -/
def scalarTag (given : Option String) (isPlain : Bool) (text : String) : Tag :=
  match given with
  | some "!" => .ofPlain text
  | some name => .ofName name
  | none => if isPlain then .ofPlain text else .text

/-- The tag of a sequence or mapping. -/
def collectionTag (given : Option String) (usual : Tag) : Tag :=
  match given with
  | none | some "!" => usual
  | some name => .ofName name

/-- Whether a node is a collection that has not ended yet. -/
def Reading.isOpen (r : Reading) : Node → Bool
  | scalar _ _ => false
  | collection label _ => (r.contents.getD label none).isNone

/-- The node that an alias stands for. -/
def aliased (name : String) : Read Node := do
  match (← get).anchors.find? name with
  | some n =>
    modify fun r ↦ { r with isTied := r.isTied || r.isOpen n }
    return n
  | none => throw .malformed

/-- An anchor may not be in use already. -/
def checkUnused (anchor : Option String) : Read Unit := do
  if anchor.any (← get).anchors.contains then throw .malformed

/-- Keep a node under its anchor. -/
def keep (anchor : Option String) (n : Node) : Read Node := do
  match anchor with
  | some name => modify fun r ↦ { r with anchors := r.anchors.insert name n }
  | none => pure ()
  return n

/-- A sequence or mapping under its anchor, which may be referred to from within it. -/
def gather (anchor : Option String) (tag : Tag) (content : Read Content) : Read Node := do
  let label := (← get).contents.size
  modify fun r ↦ { r with contents := r.contents.push none }
  let n ← keep anchor (collection label tag)
  let content ← content
  modify fun r ↦
    { r with
      contents := r.contents.setIfInBounds label (some content)
      ended := label :: r.ended }
  return n

/-! ### Nodes -/

/-- The number of steps under way at an item or key of a collection. -/
def itemSteps (level : Nat) (isFirst : Bool) : Nat := if isFirst then level + 3 else level + 2

/-- The number of steps under way at the value of a key. -/
def valueSteps (level : Nat) : Nat := level + 3

/-- The level of the collections within a collection. -/
def inner (level : Nat) : Nat := level + 2

mutual

/-- The node at the next tokens, read within a number of steps; if it is a collection, that has
this level. Block collections are allowed only if `inBlock`; items without a block of their own
only if `indentless`. -/
def node (inBlock indentless : Bool) : (fuel level steps : Nat) → Read Node
  | 0, _, _ => throw .tooDeep
  | fuel + 1, level, steps => do
    match ← peek steps with
    | .alias name =>
      advance
      aliased name
    | _ =>
      let (anchor, tag) ← properties steps
      let next ← peek steps
      checkUnused anchor
      let sequence (items : Read (List Node)) : Read Node :=
        gather anchor (collectionTag tag .list) (.items <$> items)
      let mapping (pairs : Read (List (Node × Node))) : Read Node :=
        gather anchor (collectionTag tag .dict) (.pairs <$> pairs)
      match next with
      | .scalar text isPlain =>
        advance
        keep anchor (.scalar (scalarTag tag isPlain text) text)
      | .flowSequenceStart =>
        advance
        sequence (flowItems true fuel level)
      | .flowMappingStart =>
        advance
        mapping (flowPairs true fuel level)
      | other =>
        if indentless && other = .blockEntry then
          sequence (blockItems false false fuel level)
        else if inBlock && other = .blockSequenceStart then
          advance
          sequence (blockItems true true fuel level)
        else if inBlock && other = .blockMappingStart then
          advance
          mapping (blockPairs true fuel level)
        else if anchor.isSome || tag.isSome then
          keep anchor (.scalar (scalarTag tag tag.isNone "") "")
        else throw .malformed
termination_by structural fuel _ _ => fuel

/-- A node, or the missing one before one of these tokens. -/
def nodeUnless (stops : List Token) (inBlock indentless : Bool) :
    (fuel level steps : Nat) → Read Node
  | 0, _, _ => throw .tooDeep
  | fuel + 1, level, steps => do
    if stops.contains (← peek steps) then return missing
    else node inBlock indentless fuel level (steps + 2)
termination_by structural fuel _ _ => fuel

/-- The items of a block sequence; one with an end of its own ends there. -/
def blockItems (hasEnd isFirst : Bool) : (fuel level : Nat) → Read (List Node)
  | 0, _ => throw .tooDeep
  | fuel + 1, level => do
    let steps := itemSteps level isFirst
    if ← accept steps .blockEntry then
      let stops :=
        if hasEnd then [.blockEntry, .blockEnd] else [.blockEntry, .key, .value, .blockEnd]
      let item ← nodeUnless stops true false fuel (inner level) steps
      return item :: (← blockItems hasEnd false fuel level)
    else
      if hasEnd then expect steps .blockEnd
      return []
termination_by structural fuel _ => fuel

/-- The pairs of a block mapping. -/
def blockPairs (isFirst : Bool) : (fuel level : Nat) → Read (List (Node × Node))
  | 0, _ => throw .tooDeep
  | fuel + 1, level => do
    let steps := itemSteps level isFirst
    if ← accept steps .blockEnd then return []
    expect steps .key
    let stops := [.key, .value, .blockEnd]
    let k ← nodeUnless stops true true fuel (inner level) steps
    let v ← if ← accept (valueSteps level) .value then
        nodeUnless stops true true fuel (inner level) (valueSteps level)
      else pure missing
    return (k, v) :: (← blockPairs false fuel level)
termination_by structural fuel _ => fuel

/-- The items of a sequence in brackets; a key makes an item a mapping of one pair. -/
def flowItems (isFirst : Bool) : (fuel level : Nat) → Read (List Node)
  | 0, _ => throw .tooDeep
  | fuel + 1, level => do
    let steps := itemSteps level isFirst
    if ← accept steps .flowSequenceEnd then return []
    if !isFirst then expect steps .flowEntry
    match ← peek steps with
    | .key =>
      let item ← gather none .dict (.pairs <$> flowPair fuel (inner level))
      return item :: (← flowItems false fuel level)
    | .flowSequenceEnd =>
      advance
      return []
    | _ =>
      let item ← node false false fuel (inner level) (steps + 2)
      return item :: (← flowItems false fuel level)
termination_by structural fuel _ => fuel

/-- The one pair of a mapping without braces. -/
def flowPair : (fuel level : Nat) → Read (List (Node × Node))
  | 0, _ => throw .tooDeep
  | fuel + 1, level => do
    let keySteps := itemSteps level false
    expect keySteps .key
    let k ←
      nodeUnless [.value, .flowEntry, .flowSequenceEnd] false false fuel (inner level) keySteps
    let v ← if ← accept (valueSteps level) .value then
        nodeUnless [.flowEntry, .flowSequenceEnd] false false fuel (inner level)
          (valueSteps level)
      else pure missing
    discard <| peek keySteps
    return [(k, v)]
termination_by structural fuel _ => fuel

/-- The pairs of a mapping in braces; an entry that is no key has no value. -/
def flowPairs (isFirst : Bool) : (fuel level : Nat) → Read (List (Node × Node))
  | 0, _ => throw .tooDeep
  | fuel + 1, level => do
    let steps := itemSteps level isFirst
    if ← accept steps .flowMappingEnd then return []
    if !isFirst then expect steps .flowEntry
    if ← accept steps .key then
      let k ← nodeUnless [.value, .flowEntry, .flowMappingEnd] false false fuel (inner level) steps
      let v ← if ← accept (valueSteps level) .value then
          nodeUnless [.flowEntry, .flowMappingEnd] false false fuel (inner level)
            (valueSteps level)
        else pure missing
      return (k, v) :: (← flowPairs false fuel level)
    else if ← accept steps .flowMappingEnd then return []
    else
      let k ← node false false fuel (inner level) (steps + 2)
      discard <| peek (valueSteps level)
      return (k, missing) :: (← flowPairs false fuel level)
termination_by structural fuel _ => fuel

end

/-! ### Documents -/

/-- The number of steps under way at a document. -/
def documentSteps : Nat := 14

/-- The level of the root of a document, if it is a collection. -/
def rootLevel : Nat := 13

/-- The short forms of tags that need no directive. -/
def defaultHandles : Table String String := .ofList [("!", "!"), ("!!", Tag.standardStart)]

/-- The directives before a document: at most one version, of which the first number is one,
and short forms of tags, each defined once. -/
def directives (version : Option Nat) (handles : Table String String) :
    (fuel : Nat) → Read Unit
  | 0 => throw .malformed
  | fuel + 1 => do
    match ← peek documentSteps with
    | .version major =>
      if version.isSome || major != 1 then throw .malformed
      advance
      directives (some major) handles fuel
    | .tagHandle handle start =>
      if handles.contains handle then throw .malformed
      advance
      directives version (handles.insert handle start) fuel
    | .otherDirective =>
      advance
      directives version handles fuel
    | _ => modify fun r ↦
        { r with handles := .ofList (defaultHandles.entries ++ handles.entries) }

/-- Take all marks of the end of a document. -/
def skipEnds : (fuel : Nat) → Read Unit
  | 0 => return
  | fuel + 1 => do if ← accept documentSteps .documentEnd then skipEnds fuel

/-- A document and the end of the text behind it. Nothing is written in a document that is
followed at once by a directive or mark. -/
def document (isExplicit : Bool) (fuel : Nat) : Read Node := do
  let t ← peek documentSteps
  let isEmpty := isExplicit &&
    (t.isDirective || t = .documentStart || t = .documentEnd || t = .streamEnd)
  let steps := documentSteps + (if isExplicit then 2 else 1)
  let root ← if isEmpty then pure missing else node true false fuel rootLevel steps
  skipEnds fuel
  if (← peek documentSteps) = .streamEnd then return root else throw .malformed

/-- The root of the document in a text, if there is one. -/
def stream (fuel : Nat) : Read (Option Node) := do
  match ← peek documentSteps with
  | .streamEnd => return none
  | t =>
    directives none ∅ fuel
    if t.isDirective || t = .documentStart then
      expect documentSteps .documentStart
      some <$> document true fuel
    else some <$> document false fuel

end Node

/-- The document in a text, if there is one. -/
def Document.ofText? (text : List Char) : Except Fault (Option Document) := do
  let lexer ← Lexer.ofText? text
  let (root, r) ← (Node.stream (16 * text.length + 64)).run { lexer }
  return root.map fun root ↦
    { root, contents := r.contents.map (·.getD default)
      order := r.ended.reverse, isTied := r.isTied }

end ModuleScript.Yaml
