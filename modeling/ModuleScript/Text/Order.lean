import ModuleScript.Data.Sorting

/-!
# Order of texts

Texts are ordered by their code points, character by character.
-/

namespace ModuleScript.Text

/-- The texts in order. -/
def sort (texts : List String) : List String := Sorting.sortBy (fun s t ↦ decide (s ≤ t)) texts

/-- The different texts in order. -/
def sortedSet (texts : List String) : List String := sort texts.eraseDups

end ModuleScript.Text
