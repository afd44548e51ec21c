import ModuleScript.Text.Contains
import ModuleScript.Text.Quoted

/-!
# Broken texts

Data can spell out one half of a surrogate pair alone. A text that holds such a half is a sequence
of code points of which not all are characters. It can be compared, searched and quoted, but it
cannot be encoded, so nothing that digests or writes it comes to an end.
-/

namespace ModuleScript

/-- Code points, not all of which are characters. -/
structure BrokenText where
  points : List Nat
  isPoint : ∀ n ∈ points, n ≤ 0x10ffff
  isBroken : ∃ n ∈ points, ¬ n.isValidChar
  deriving DecidableEq, Repr

namespace BrokenText

/-- A code point between marks, a half of a pair as its escape. -/
def quotePoint (mark : Char) (n : Nat) : List Char :=
  if n.isValidChar then Text.quoteChar mark (Char.ofNat n) else Text.escapeCodePoint n

/-- The characters among the code points. -/
def characters (t : BrokenText) : List Char :=
  (t.points.filter (·.isValidChar)).map Char.ofNat

/-- The text between marks. -/
def quote (t : BrokenText) : String :=
  let mark := Text.quoteMark t.characters
  String.ofList (mark :: (t.points.flatMap (quotePoint mark) ++ [mark]))

/-- The text as a log shows it, each half of a pair as its escape. -/
def shown (t : BrokenText) : String :=
  String.ofList (t.points.flatMap fun n ↦
    if n.isValidChar then [Char.ofNat n] else Text.escapeCodePoint n)

/-- Whether a text occurs in the broken one. -/
def contains (t : BrokenText) (part : String) : Bool :=
  Text.occursWithin (part.toList.map Char.toNat) t.points

end BrokenText

end ModuleScript
