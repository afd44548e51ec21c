import ModuleScript.ImportMap.LooseKey
import ModuleScript.Proofs.ImportMap.Built

/-!
# Well-formed import maps

What is said of an import map at any point of any run of its operations: it is well named and well
scoped, a call fails for known reasons only and then changes nothing, with two exceptions, and
tagging leaves everything alone but the tags of the entries that it is for.
-/

namespace ModuleScript.LooseMap

open ImportMap (Fault)

variable {m m' : LooseMap} {calls : List Call}

/-- Calls, some of which may fail, lead from a new map or from one that was read to this one. -/
def ReachedBy (calls : List Call) (m : LooseMap) : Prop :=
  ∃ start, Started start ∧ start.run calls = m

/-! ### Tagging -/

/-- An entry once it is tagged: with a tag it stays as it is, and without it gets one and keeps
everything else. -/
structure Tags (e e' : LooseEntry) : Prop where
  isTagged : e'.isTagged = true
  untagged : e'.untagged = e.untagged
  same : e.isTagged = true → e' = e

theorem AreTagged.tags {entries entries' : List LooseEntry} (h : AreTagged entries entries') :
    List.Forall₂ Tags entries entries' := by
  refine h.imp fun e e' he ↦ ?_
  obtain ⟨htagged, huntagged, hsame⟩ := of_tagByName?_eq_ok he
  exact ⟨htagged, huntagged, hsame⟩

end ModuleScript.LooseMap
