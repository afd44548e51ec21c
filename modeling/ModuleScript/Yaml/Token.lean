/-!
# Tokens of a YAML text

Block structure, which is given by indentation, has tokens of its own for its starts and ends.
-/

namespace ModuleScript.Yaml

/-- A token. -/
inductive Token where
  | streamEnd
  /-- The version of the format that a document asks for. -/
  | version (major : Nat)
  /-- A short form of the start of tags. -/
  | tagHandle (handle start : String)
  /-- A directive that is skipped. -/
  | otherDirective
  | documentStart
  | documentEnd
  | blockSequenceStart
  | blockMappingStart
  | blockEnd
  | flowSequenceStart
  | flowSequenceEnd
  | flowMappingStart
  | flowMappingEnd
  | blockEntry
  | flowEntry
  | key
  | value
  | alias (name : String)
  | anchor (name : String)
  /-- A tag, with the handle that it starts with, if any. -/
  | tag (handle : Option String) (suffix : String)
  /-- A scalar; a plain one may stand for something else than a text. -/
  | scalar (text : String) (isPlain : Bool)
  deriving DecidableEq, Repr

/-- Whether the token is a directive. -/
def Token.isDirective : Token → Bool
  | version _ | tagHandle _ _ | otherDirective => true
  | _ => false

end ModuleScript.Yaml
