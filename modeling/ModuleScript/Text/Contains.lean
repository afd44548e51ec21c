/-!
# Texts within texts
-/

namespace ModuleScript.Text

/-- Whether a list occurs in another as a run of neighbours. -/
def occursWithin {α : Type} [BEq α] (part : List α) : List α → Bool
  | [] => part.isEmpty
  | c :: rest => part.isPrefixOf (c :: rest) || occursWithin part rest

/-- Whether the text contains the part. -/
def contains (s part : String) : Bool := occursWithin part.toList s.toList

/-- Whether the text starts with the part. -/
def startsWith (s part : String) : Bool := part.toList.isPrefixOf s.toList

end ModuleScript.Text
