import ModuleScript.ImportMap.Category

/-!
# Changes of import maps

The changes that a map can undergo, as data. A change that is refused leaves the map as it is.
-/

namespace ModuleScript.ImportMap

/-- A change of an import map. -/
inductive Change where
  | add (e : Entry)
  | addScope (scope name : String) (location : Option String)
  | categorize (name : String) (kind framework : Value)
  | autoCategorize

/-- The map after a change, or why the change is refused. -/
def change? (m : ImportMap) : Change → Except Fault ImportMap
  | .add e => m.add e
  | .addScope scope name location => m.addScope scope name location
  | .categorize name kind framework => m.categorize name kind framework
  | .autoCategorize => .ok m.autoCategorize

/-- The map after a change, which is the map itself when the change is refused. -/
def change (m : ImportMap) (c : Change) : ImportMap := (m.change? c).toOption.getD m

end ModuleScript.ImportMap
