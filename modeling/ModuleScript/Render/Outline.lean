import ModuleScript.ImportMap.Loose
import ModuleScript.Stimulus.Controller

/-!
# What renderers see of a loose map

Renderers look at the entries of a map only, and of a location they ask whether it holds the name of
a package. So a typed map tells them all about a loose one whose names are texts: a list or a
dictionary that holds the package among its items or keys stands for the package, and what cannot
be looked through at all stands for null.
-/

namespace ModuleScript

open Stimulus (coreModule)

/-- What a renderer sees of a location. -/
def Value.outline : Value → Option String
  | .text s => some s
  | .broken t => some (if t.contains coreModule then coreModule else "")
  | .bytes _ => none
  | v => v.elements?.map fun items ↦ if items.any (·.isText coreModule) then coreModule else ""

/-- What a renderer sees of an entry. -/
def LooseEntry.outline (e : LooseEntry) : Entry :=
  { e with name := e.name.display, location := e.location.outline }

/-- What a renderer sees of a map. -/
def LooseMap.outline (m : LooseMap) : ImportMap where
  entries := m.entries.map LooseEntry.outline

end ModuleScript
