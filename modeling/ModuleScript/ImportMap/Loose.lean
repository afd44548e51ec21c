import ModuleScript.ImportMap.Category

/-!
# Loose import maps

Nothing keeps the names and locations of a map from being other values than texts: what a record
holds is taken as it is. A loose map has the fields and the operations of an import map for any
values. An operation works on the map itself and may fail on the way, so it leaves a map behind and
perhaps a fault.
-/

namespace ModuleScript

/-- A module as a map holds it (`ImportMapEntry`). -/
structure LooseEntry where
  name : Value
  location : Value
  preload : Bool := false
  kind : Value := .null
  framework : Value := .null

namespace LooseEntry

/-- Whether the entry has a kind or a framework. -/
def isTagged (e : LooseEntry) : Bool := !(e.kind.isNull && e.framework.isNull)

/-- Set those of the tags that are given. -/
def retag (e : LooseEntry) (kind framework : Value) : LooseEntry :=
  { e with
    kind := if kind.isNull then e.kind else kind
    framework := if framework.isNull then e.framework else framework }

/-- Tag an entry that has no tags yet by its name, which needs to be one that can be searched. -/
def tagByName? (e : LooseEntry) : Except ImportMap.Fault LooseEntry :=
  if e.isTagged then .ok e
  else match ImportMap.categoryOf? e.name with
    | some (kind, framework) => .ok { e with kind := .text kind, framework := .ofText? framework }
    | none => .error (.unsearchableName e.name)

end LooseEntry

/-- Modules in the order of their addition, and scopes with the locations that they override, both
as dictionaries (`ImportMap`). -/
structure LooseMap where
  name : Value := .text "application"
  entries : List LooseEntry := []
  scopes : List (Value × List (Value × Value)) := []

/-- What a call leaves behind: the map, and why the call failed, if it did. -/
structure Left where
  map : LooseMap
  fault : Option ImportMap.Fault := none

/-- The map, unless the call failed. -/
def Left.map? (l : Left) : Except ImportMap.Fault LooseMap :=
  match l.fault with
  | none => .ok l.map
  | some fault => .error fault

namespace LooseMap

instance : Inhabited LooseMap := ⟨{}⟩

/-- The names in order (`names`). -/
def names (m : LooseMap) : List Value := m.entries.map (·.name)

/-- Whether a name is present. -/
def contains (m : LooseMap) (name : Value) : Bool := m.entries.any (·.name.same name)

/-- Append an entry whose name is new (`add_import_with_metadata`). -/
def add (m : LooseMap) (e : LooseEntry) : Left :=
  if !e.name.isTruthy then { map := m, fault := some .emptyName }
  else if m.contains e.name then { map := m, fault := some (.repeatedName e.name m.name) }
  else { map := { m with entries := m.entries ++ [e] } }

/-- Whether a text starts like a path; this cannot be asked of anything else. -/
def isScopeKey? (scope : Value) : Option Bool :=
  scope.points?.map fun points ↦ ["/", "./", "../"].any fun start ↦
    (start.toList.map Char.toNat).isPrefixOf points

/-- The locations that a scope overrides. -/
def overrides (m : LooseMap) (scope : Value) : List (Value × Value) :=
  (Value.under? scope m.scopes).getD []

/-- Give a scope the locations that it overrides. -/
def setScope (m : LooseMap) (scope : Value) (overrides : List (Value × Value)) : LooseMap :=
  { m with scopes := Value.put scope overrides m.scopes }

/-- Override the location of a name within a scope (`add_scope`). The scope is there before the name
is found to be no key. -/
def addScope (m : LooseMap) (scope name location : Value) : Left :=
  match isScopeKey? scope with
  | none => { map := m, fault := some (.untextualScope scope) }
  | some false => { map := m, fault := some .scopeKey }
  | some true =>
    if name.isKey then { map := m.setScope scope (Value.put name location (m.overrides scope)) }
    else { map := m.setScope scope (m.overrides scope), fault := some (.noKey name) }

/-- Change the first entry with a name. -/
def modifyEntry (name : Value) (change : LooseEntry → LooseEntry) :
    List LooseEntry → List LooseEntry
  | [] => []
  | e :: rest => if e.name.same name then change e :: rest else e :: modifyEntry name change rest

/-- Tag the entry with a name (`categorize`). -/
def categorize (m : LooseMap) (name kind framework : Value) : Left :=
  if m.contains name then
    { map := { m with entries := modifyEntry name (·.retag kind framework) m.entries } }
  else { map := m, fault := some (.unknownName name) }

/-- Tag entries one by one, up to the first whose name cannot be searched. -/
def tagEntries : List LooseEntry → List LooseEntry × Option ImportMap.Fault
  | [] => ([], none)
  | e :: rest =>
    match e.tagByName? with
    | .ok e' => (e' :: (tagEntries rest).1, (tagEntries rest).2)
    | .error fault => (e :: rest, some fault)

/-- Tag all entries that have no tags yet (`auto_categorize_imports`). -/
def autoCategorize (m : LooseMap) : Left where
  map := { m with entries := (tagEntries m.entries).1 }
  fault := (tagEntries m.entries).2

/-- A call of an operation. -/
inductive Call where
  | add (e : LooseEntry)
  | addScope (scope name location : Value)
  | categorize (name kind framework : Value)
  | autoCategorize

/-- What a call leaves behind. -/
def call (m : LooseMap) : Call → Left
  | .add e => m.add e
  | .addScope scope name location => m.addScope scope name location
  | .categorize name kind framework => m.categorize name kind framework
  | .autoCategorize => m.autoCategorize

/-- The map after calls, some of which may have failed. -/
def run (m : LooseMap) (calls : List Call) : LooseMap := calls.foldl (fun m c ↦ (m.call c).map) m

end LooseMap

end ModuleScript
