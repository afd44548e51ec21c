import ModuleScript.Digest.Sha256
import ModuleScript.Text.Utf8

/-!
# Content keys

A content key names a list of texts by the digest of their framing, in which a NUL byte
closes every text. Lists of texts without NUL have different framings.
-/

namespace ModuleScript.Digest

/-- Every text in UTF-8, closed by a NUL byte. -/
def framing (parts : List String) : List UInt8 := parts.flatMap fun s ↦ Text.Utf8.encode s ++ [0]

/-- The key of a list of texts: the digest of its framing (`content_key`). -/
def contentKey (parts : List String) : String := sha256Hex (framing parts)

end ModuleScript.Digest
