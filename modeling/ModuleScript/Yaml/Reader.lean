import ModuleScript.Data.Value.Equality
import ModuleScript.Yaml.Node

/-!
# Reading YAML

The value of a document is built collection by collection, the outer ones before those within.
In the values of collections, labels stand for others at first; these are put in when all
collections are built. A mapping may take over the pairs of others: its own pairs prevail over
those, and those of an earlier mapping over those of a later one.

Rule files are read by a library (`yaml.safe_load`), and this reader stands in for it when rules are
loaded without another one. Loading takes any reader, and what is stated about loading holds for
all of them. Halves of surrogate pairs that escapes spell are replaced here, and of a malformed text
only the fact is told, not the place.
-/

namespace ModuleScript.Yaml

/-- Building under way: what the collections hold, their values as far as they are built, and the
nodes whose turn has come or is still to come. -/
structure Building where
  contents : Array Content
  values : Array (Option Value)
  queue : Array Node := #[]

/-- A step of building. -/
abbrev Build := StateT Building (Except Fault)

namespace Build

/-- What a collection holds. -/
def contentOf (label : Nat) : Build Content := return (← get).contents.getD label default

/-- The pairs of a mapping. -/
def pairsOf (label : Nat) : Build (List (Node × Node)) := do
  match ← contentOf label with
  | .pairs pairs => return pairs
  | .items _ => throw .malformed

/-- Change the pairs of a mapping. -/
def setPairs (label : Nat) (pairs : List (Node × Node)) : Build Unit := modify fun b ↦
  { b with contents := b.contents.setIfInBounds label (.pairs pairs) }

/-! ### Taking over pairs -/

/-- Whether the key of a pair is a mark with a meaning within mappings. -/
def isMarked : Node × Node → Bool
  | (.scalar tag _, _) => tag == .merge || tag == .default
  | _ => false

/-- A pair in which the mark of a default value is a text. -/
def unmarked : Node × Node → Node × Node
  | (.scalar .default text, n) => (.scalar .text text, n)
  | pair => pair

/-- The first node whose pairs are to be taken over, and the pairs without it. -/
def splitMerge : List (Node × Node) → Option (Node × List (Node × Node))
  | [] => none
  | (.scalar .merge _, n) :: rest => some (n, rest)
  | pair :: rest => (splitMerge rest).map fun (n, rest) ↦ (n, pair :: rest)

mutual

/-- Carry out all merges of a mapping: what is taken over stands before its own pairs. From then
on no key is a mark. -/
def merge : (fuel label : Nat) → Build Unit
  | 0, _ => throw .tooDeep
  | fuel + 1, label => do
    let found ← taken fuel label
    setPairs label ((found ++ (← pairsOf label)).map unmarked)
termination_by structural fuel _ => fuel

/-- The pairs that a mapping takes over; the marks of merges are taken out of it. -/
def taken : (fuel label : Nat) → Build (List (Node × Node))
  | 0, _ => throw .tooDeep
  | fuel + 1, label => do
    match splitMerge (← pairsOf label) with
    | none => return []
    | some (n, rest) =>
      setPairs label rest
      let found ← offered fuel n
      return found ++ (← taken fuel label)
termination_by structural fuel _ => fuel

/-- The pairs that a node offers: those of a mapping, or those of all mappings of a sequence. -/
def offered : (fuel : Nat) → Node → Build (List (Node × Node))
  | 0, _ => throw .tooDeep
  | _, .scalar _ _ => throw .malformed
  | fuel + 1, .collection label _ => do
    match ← contentOf label with
    | .pairs _ =>
      merge fuel label
      pairsOf label
    | .items nodes => offeredByAll fuel nodes
termination_by structural fuel _ => fuel

/-- The pairs of the mappings of a sequence, those of the first one last. -/
def offeredByAll : (fuel : Nat) → List Node → Build (List (Node × Node))
  | 0, _ => throw .tooDeep
  | _, [] => return []
  | _, .scalar _ _ :: _ => throw .malformed
  | fuel + 1, .collection label _ :: rest => do
    merge fuel label
    let found ← pairsOf label
    return (← offeredByAll fuel rest) ++ found
termination_by structural fuel _ => fuel

end

/-- The number of all collections and of the pairs and items in them. -/
def size (contents : Array Content) : Nat :=
  contents.foldl (fun n content ↦
      match content with
      | .items nodes => n + nodes.length + 1
      | .pairs pairs => n + pairs.length + 1)
    0

/-! ### Nodes -/

/-- The scalar that a node stands for: a mapping stands for its default value. -/
def scalarText : (fuel : Nat) → Node → Build String
  | _, .scalar _ text => return text
  | 0, _ => throw .tooDeep
  | fuel + 1, .collection label _ => do
    let isDefault : Node × Node → Bool
      | (.scalar .default _, _) => true
      | _ => false
    match (← pairsOf label).find? isDefault with
    | some (_, n) => scalarText fuel n
    | none => throw .malformed

/-- The value of a node under the tag of a scalar. A collection has no text that could be a
date. -/
def scalarValue (tag : Tag) (n : Node) : Build Value := do
  match tag.reading? with
  | none => throw .malformed
  | some read =>
    let text ← scalarText ((← get).contents.size + 1) n
    match tag, n with
    | .timestamp, .collection _ _ => throw .undatable
    | _, _ => read text

/-- Whether a node stands for a value that holds others. -/
def holdsOthers : Node → Bool
  | .scalar tag _ | .collection _ tag => tag.isCollection

/-- Let a node wait for its turn, unless it is a collection that has had it or waits already. -/
def await (n : Node) : Build Unit := modify fun b ↦
  match n with
  | .scalar _ _ => { b with queue := b.queue.push n }
  | .collection label _ =>
    if (b.values.getD label none).isSome then b
    else
      { b with
        queue := b.queue.push n
        values := b.values.setIfInBounds label (some .null) }

/-- The value of a node; a collection is only begun, and its label stands for it. -/
def valueOf (n : Node) : Build Value := do
  match n with
  | .scalar tag _ =>
    if tag.isCollection then
      await n
      return .null
    else scalarValue tag n
  | .collection label tag =>
    if tag.isCollection then
      await n
      return .again label
    else scalarValue tag n

/-- The value of a key, which holds no others. -/
def keyOf (n : Node) : Build Value := if holdsOthers n then throw .malformed else valueOf n

/-- The pair that a mapping of one pair stands for. -/
def pairOf : Node → Build Value
  | .scalar _ _ => throw .malformed
  | .collection label _ => do
    match ← pairsOf label with
    | [(k, v)] => return .pair (← valueOf k) (← valueOf v)
    | _ => throw .malformed

/-- The keys and values of a mapping. -/
def entriesOf (label : Nat) : Build (List (Value × Value)) := do
  if (← pairsOf label).any isMarked then merge (4 * size (← get).contents + 4) label
  (← pairsOf label).mapM fun (k, v) ↦ return (← keyOf k, ← valueOf v)

/-- The items of a sequence. -/
def itemsOf (label : Nat) (value : Node → Build Value) : Build (List Value) := do
  match ← contentOf label with
  | .items nodes => nodes.mapM value
  | .pairs _ => throw .malformed

/-- The value of a collection whose turn has come. -/
def collectionValue (label : Nat) (tag : Tag) : Build Value := do
  match tag with
  | .list => return .list (← itemsOf label valueOf)
  | .pairs => return .list (← itemsOf label pairOf)
  | .dict => return .dict ((← entriesOf label).foldl (fun d (k, v) ↦ Value.put k v d) [])
  | .set => return .set ((← entriesOf label).foldl (fun s (k, _) ↦ Value.addMember s k) [])
  | _ => throw .malformed

/-- Build the nodes of the queue from a place on. -/
def buildFrom : (fuel place : Nat) → Build Unit
  | 0, _ => return
  | fuel + 1, place => do
    match (← get).queue[place]? with
    | none => return
    | some (.scalar _ _) => throw .malformed
    | some (.collection label tag) =>
      let v ← collectionValue label tag
      modify fun b ↦ { b with values := b.values.setIfInBounds label (some v) }
      buildFrom fuel (place + 1)

end Build

namespace Document

/-- Put the values of collections in for their labels, in the order in which the collections end.
If the document is tied, every value is tied under its label. -/
def close (d : Document) (values : Array (Option Value)) : Array (Option Value) :=
  d.order.foldl (fun known label ↦
      match values.getD label none with
      | none => known
      | some v =>
        let v := v.resolve (known.getD · none)
        if d.isTied then
          let v := .knot label v
          (known.map (·.map (·.resolveLabel label v))).setIfInBounds label (some v)
        else known.setIfInBounds label (some v))
    (.replicate values.size none)

/-- The value of a document. -/
def toValue (d : Document) : Except Fault Value := do
  let labels := d.contents.size
  let build : Build Value := do
    let root ← Build.valueOf d.root
    Build.buildFrom (labels + 2) 0
    return root
  let (root, b) ← build.run { contents := d.contents, values := .replicate labels none }
  return root.resolve ((d.close b.values).getD · none)

end Document

/-- The value of a text; null if it holds no document. -/
def read (text : List Char) : Except Fault Value := do
  match ← Document.ofText? text with
  | none => return .null
  | some d => d.toValue

end ModuleScript.Yaml
