import ModuleScript.ImportMap.Loose

/-!
# Import maps as plain data

The record of an import map holds its name, its entries and its scopes (`to_dict`). Reading a record
(`from_dict`) also accepts a dictionary of locations by name in place of the list of entries; it
adds the entries and scopes one by one, and the first fault ends it. Names, locations and tags are
taken as they are, whatever values they are; a map with texts for names, and texts or null for
locations, is a typed one.
-/

namespace ModuleScript

/-- The record of an entry; tags that are null are left out (`ImportMapEntry.to_dict`). -/
def LooseEntry.toValue (e : LooseEntry) : Value :=
  let tag (name : String) (v : Value) := if v.isNull then [] else [(name, v)]
  .record ([("name", e.name), ("location", e.location), ("preload", .bool e.preload)]
    ++ tag "type" e.kind ++ tag "framework" e.framework)

namespace LooseMap

open ImportMap (Fault)

/-- The record of an import map (`to_dict`). -/
def toValue (m : LooseMap) : Value :=
  .record [("name", m.name), ("imports", .list (m.entries.map LooseEntry.toValue)),
    ("scopes", .dict (m.scopes.map fun scope ↦ (scope.1, .dict scope.2)))]

/-- Read an entry; name and location have to be there. -/
def entryOf (item : Value) : Except Fault LooseEntry :=
  match item.pairs? with
  | some pairs =>
    match Value.get? "name" pairs, Value.get? "location" pairs with
    | some name, some location =>
      .ok {
        name
        location
        preload := ((Value.get? "preload" pairs).getD (.bool false)).isTruthy
        kind := (Value.get? "type" pairs).getD .null
        framework := (Value.get? "framework" pairs).getD .null }
    | _, _ => .error (.invalidEntry item)
  | none => .error (.invalidEntry item)

/-- The entries to be read: those of a list, or a location under each name of a dictionary. -/
def importItems (v : Value) : Except Fault (List Value) :=
  match v.pairs? with
  | some pairs => .ok (pairs.map fun pair ↦ .record [("name", pair.1), ("location", pair.2)])
  | none => match v.elements? with
    | some items => .ok items
    | none => .error .noItems

/-- The pairs of a value that has to be a dictionary. -/
def needPairs (v : Value) : Except Fault (List (Value × Value)) :=
  match v.pairs? with
  | some pairs => .ok pairs
  | none => .error .noDictionary

/-- A field of a dictionary, null if it is missing. -/
def field (name : String) (fields : List (Value × Value)) : Value :=
  (Value.get? name fields).getD .null

/-- Add the entry that is read from an item. -/
def readEntry (m : LooseMap) (item : Value) : Except Fault LooseMap := do
  (m.add (← entryOf item)).map?

/-- Add the overrides of one scope. -/
def readScope (m : LooseMap) (scope overrides : Value) : Except Fault LooseMap := do
  (← needPairs overrides).foldlM (fun m override ↦
    (m.addScope scope override.1 override.2).map?) m

/-- Read the record of an import map (`from_dict`). -/
def ofValue? (v : Value) : Except Fault LooseMap := do
  let fields ← needPairs v
  let name := (Value.get? "name" fields).getD (.text "application")
  let imports ← importItems ((field "imports" fields).orElse (.list []))
  let m ← imports.foldlM readEntry { name }
  let scopes ← needPairs ((field "scopes" fields).orElse (.dict []))
  scopes.foldlM (fun m scope ↦ m.readScope scope.1 scope.2) m

end LooseMap

/-! ### Typed maps -/

/-- The text or null that a value is, if it is one of them. -/
def Value.toTextOrNull? : Value → Option (Option String)
  | .null => some none
  | .text s => some (some s)
  | _ => none

/-- The typed entry that a loose one is, if it is typed. -/
def LooseEntry.typed? (e : LooseEntry) : Option Entry := do
  return { e with name := ← e.name.toText?, location := ← e.location.toTextOrNull? }

/-- The locations by name that a dictionary holds, if they are typed. -/
def LooseMap.typedOverrides? (pairs : List (Value × Value)) :
    Option (Table String (Option String)) := do
  return ⟨← pairs.mapM fun pair ↦ do
    return (← pair.1.toText?, ← pair.2.toTextOrNull?)⟩

/-- The typed map that a loose one is, if it is typed. -/
def LooseMap.typed? (m : LooseMap) : Option ImportMap := do
  return {
    name := ← m.name.toTextOrNull?
    entries := ← m.entries.mapM LooseEntry.typed?
    scopes := ⟨← m.scopes.mapM fun scope ↦ do
      return (← scope.1.toText?, ← typedOverrides? scope.2)⟩ }

/-- A typed entry as a loose one. -/
def Entry.loose (e : Entry) : LooseEntry :=
  { e with name := .text e.name, location := .ofText? e.location }

namespace ImportMap

/-- A typed map as a loose one. -/
def loose (m : ImportMap) : LooseMap where
  name := .ofText? m.name
  entries := m.entries.map Entry.loose
  scopes := m.scopes.entries.map fun scope ↦ (.text scope.1, scope.2.entries.map fun override ↦
    (.text override.1, .ofText? override.2))

/-- The record of an import map. -/
def toValue (m : ImportMap) : Value := m.loose.toValue

/-- Read the record of an import map whose names and locations are typed. -/
def ofValue? (v : Value) : Except Fault ImportMap := do
  match (← LooseMap.ofValue? v).typed? with
  | some m => return m
  | none => throw .untyped

end ImportMap

end ModuleScript
