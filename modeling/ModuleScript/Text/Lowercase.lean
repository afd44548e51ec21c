import ModuleScript.Text.CaseTable
import ModuleScript.Text.Word

/-!
# Lower case

Every character has its own lower-case form, but for two: the dotted capital I becomes two
characters, and a capital sigma that ends a word becomes the final sigma.
-/

namespace ModuleScript.Text

/-- The code point of the single-character lower-case form. -/
def lowerCodePoint (c : Char) : Nat :=
  match caseRuns.find? fun r ↦
      r.first ≤ c.toNat && c.toNat ≤ r.last && (c.toNat - r.first) % r.stride == 0 with
  | some r => (c.toNat + r.offset).toNat
  | none => c.toNat

/-- The single-character lower-case form. -/
def lowerChar (c : Char) : Char :=
  if c.toNat < 128 then
    if isAsciiUpper c then Char.ofNat (c.toNat + 32) else c
  else Char.ofNat (lowerCodePoint c)

/-- Whether a character carries case and is not skipped by a final sigma's context. -/
def isCased (c : Char) : Bool := isAsciiUpper c || isAsciiLower c || casedTable.contains c

/-- Whether the first character that the context does not skip carries case. -/
def startsCased (cs : List Char) : Bool :=
  match cs.dropWhile caseIgnorableTable.contains with
  | [] => false
  | c :: _ => isCased c

/-- Lower-case forms, `before` being the characters already passed, latest first. -/
def lowerFrom (before : List Char) : List Char → List Char
  | [] => []
  | c :: rest =>
    let form :=
      if c == '\u0130' then ['i', '\u0307']
      else if c == 'Σ' then
        if startsCased before && !startsCased rest then ['ς'] else ['σ']
      else [lowerChar c]
    form ++ lowerFrom (c :: before) rest

/-- The text in lower case. -/
def toLower (s : String) : String := String.ofList (lowerFrom [] s.toList)

end ModuleScript.Text
