import ModuleScript.ImportMap.Loose
import ModuleScript.Text.Utf8

/-!
# Keys of loose import maps

The key of a map digests the forms of its names and locations. A form with a half of a surrogate
pair in it cannot be encoded, and a number that is too long has no form, so not every loose map has
a key.
-/

namespace ModuleScript

/-- The code points of the form of a value as it stands. -/
def Value.formPoints? : Value → Except Decimal.LengthFault (List Nat)
  | .broken t => .ok t.points
  | v => (v.display?).map fun form ↦ form.toList.map Char.toNat

/-- Why a map has no key. -/
inductive KeyFault where
  | number (fault : Decimal.LengthFault)
  | encoding (fault : Text.Utf8.EncodingFault)
  deriving DecidableEq, Repr

/-- The wording of a refusal. -/
def KeyFault.message : KeyFault → String
  | .number fault => fault.message
  | .encoding fault => fault.message

/-- An entry as it enters the key of its map: name and location, each closed by a separator. -/
def LooseEntry.framing? (e : LooseEntry) : Except KeyFault (List UInt8) := do
  let name ← e.name.formPoints?.mapError .number
  let location ← e.location.formPoints?.mapError .number
  (Text.Utf8.encodePoints? (name ++ 0x1f :: location ++ [0x1e])).mapError .encoding

/-- The key of a map: a digest of its names and locations in order (`content_key`). -/
def LooseMap.contentKey? (m : LooseMap) : Except KeyFault String := do
  return Digest.sha256Hex (← m.entries.mapM LooseEntry.framing?).flatten

end ModuleScript
