import ModuleScript.Data.Table
import ModuleScript.Data.Value.Equality
import ModuleScript.Digest.Sha256
import ModuleScript.ImportMap.Fault
import ModuleScript.Text.Contains
import ModuleScript.Text.Utf8

/-!
# Import maps

An import map lists modules by name, each with the location that the name resolves to, in the
order in which they were added. Scopes override locations for a part of a site. Names are not
empty and pairwise different; the key of a scope starts with a slash, possibly after one or
two dots.

These are the maps whose names and locations are of the types that the declarations of
`ImportMapEntry` and `ImportMap` give them, texts and for locations also null. Nothing checks the
types: maps that hold other values are loose ones, and there are the same operations on them.
-/

namespace ModuleScript

/-- A module that can be imported: its name, where it resolves to, whether it is preloaded, and
its kind and framework, null while it has none (`ImportMapEntry`). -/
structure Entry where
  name : String
  location : Option String
  preload : Bool := false
  kind : Value := .null
  framework : Value := .null

/-- Whether the entry has a kind or a framework. -/
def Entry.isTagged (e : Entry) : Bool := !(e.kind.isNull && e.framework.isNull)

/-- Set those of the tags that are given. -/
def Entry.retag (e : Entry) (kind framework : Value) : Entry :=
  { e with
    kind := if kind.isNull then e.kind else kind
    framework := if framework.isNull then e.framework else framework }

/-- An entry as it enters the key of its map: name and location, each closed by a separator. -/
def Entry.framing (e : Entry) : List UInt8 :=
  Text.Utf8.encode e.name ++ 0x1f :: Text.Utf8.encode (e.location.getD "None") ++ [0x1e]

/-- Modules in the order of their addition, and scopes with the locations that they override
(`ImportMap`). -/
structure ImportMap where
  name : Option String := some "application"
  entries : List Entry := []
  scopes : Table String (Table String (Option String)) := ∅

namespace ImportMap

instance : Inhabited ImportMap := ⟨{}⟩

/-- The names in order (`names`). -/
def names (m : ImportMap) : List String := m.entries.map (·.name)

/-- The number of modules. -/
def size (m : ImportMap) : Nat := m.entries.length

/-- The entry with a name (`get`). -/
def find? (m : ImportMap) (name : String) : Option Entry := m.entries.find? (·.name == name)

/-- Whether a name is present. -/
def contains (m : ImportMap) (name : String) : Bool := m.entries.any (·.name == name)

/-- Append an entry whose name is new (`add_import_with_metadata`). -/
def add (m : ImportMap) (e : Entry) : Except Fault ImportMap :=
  if e.name.isEmpty then .error .emptyName
  else if m.contains e.name then .error (.repeatedName (.text e.name) (.ofText? m.name))
  else .ok { m with entries := m.entries ++ [e] }

/-- Whether a text can be the key of a scope. -/
def isScopeKey (scope : String) : Bool :=
  Text.startsWith scope "/" || Text.startsWith scope "./" || Text.startsWith scope "../"

/-- Override the location of a name within a scope (`add_scope`). -/
def addScope (m : ImportMap) (scope name : String) (location : Option String) :
    Except Fault ImportMap :=
  if isScopeKey scope then
    let overrides := (m.scopes.find? scope).getD ∅
    .ok { m with scopes := m.scopes.insert scope (overrides.insert name location) }
  else .error .scopeKey

/-- Change the first entry with a name. -/
def modifyEntry (name : String) (change : Entry → Entry) : List Entry → List Entry
  | [] => []
  | e :: rest => if e.name = name then change e :: rest else e :: modifyEntry name change rest

/-- Tag the entry with a name (`categorize`). -/
def categorize (m : ImportMap) (name : String) (kind framework : Value) :
    Except Fault ImportMap :=
  if m.contains name then
    .ok { m with entries := modifyEntry name (·.retag kind framework) m.entries }
  else .error (.unknownName (.text name))

/-- The entries of a kind (`imports_by_type`). -/
def ofKind (m : ImportMap) (kind : Value) : List Entry := m.entries.filter (·.kind.same kind)

/-- The entries of a framework (`imports_by_framework`). -/
def ofFramework (m : ImportMap) (framework : Value) : List Entry :=
  m.entries.filter (·.framework.same framework)

/-- The entries without a framework (`framework_agnostic_imports`). -/
def agnostic (m : ImportMap) : List Entry := m.entries.filter (·.framework.isNull)

/-- The entries tagged as controllers of a framework (`controller_imports`). -/
def controllers (m : ImportMap) (framework : Value) : List Entry :=
  m.entries.filter fun e ↦ e.kind.isText "controller" && e.framework.same framework

/-- Count one more occurrence of a tag. -/
def countTag (tag : Value) : List (Value × Nat) → List (Value × Nat)
  | [] => [(tag, 1)]
  | (t, n) :: rest => if t.sameScalar tag then (t, n + 1) :: rest else (t, n) :: countTag tag rest

/-- The tags that count as true, with their numbers, in the order of their first occurrence. -/
def tally (tags : List Value) : Except Fault (List (Value × Nat)) :=
  tags.foldlM (fun counts tag ↦
    if !tag.isTruthy then .ok counts
    else if tag.isKey then .ok (countTag tag counts)
    else .error .uncountable) []

/-- The numbers of entries by kind and by framework (`import_summary`). -/
def summary (m : ImportMap) : Except Fault (List (Value × Nat) × List (Value × Nat)) := do
  return (← tally (m.entries.map (·.kind)), ← tally (m.entries.map (·.framework)))

/-- The bytes that the key of a map digests. -/
def framing (m : ImportMap) : List UInt8 := m.entries.flatMap Entry.framing

/-- The key of a map: a digest of its names and locations in order (`content_key`). -/
def contentKey (m : ImportMap) : String := Digest.sha256Hex m.framing

end ImportMap

end ModuleScript
