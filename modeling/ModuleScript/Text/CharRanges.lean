/-!
# Sets of characters given by ranges

A property of characters that a standard lists is kept as closed ranges of code points.
-/

namespace ModuleScript.Text

/-- A set of characters, as closed ranges of code points. -/
structure CharRanges where
  ranges : List (Nat × Nat)

/-- A character belongs to the set when one of the ranges holds its code point. -/
def CharRanges.contains (t : CharRanges) (c : Char) : Bool :=
  t.ranges.any fun (first, last) ↦ first ≤ c.toNat && c.toNat ≤ last

end ModuleScript.Text
