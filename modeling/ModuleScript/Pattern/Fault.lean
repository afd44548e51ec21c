import ModuleScript.Decimal.DigitLimit
import ModuleScript.Text.Quoted

/-!
# Faults of written patterns

What keeps a written pattern from being read is told with its place: the offset in the pattern, and
the line and column too if the pattern has several lines (`re.error`). A pattern can also go beyond
a limit, which ends the reading in another way.
-/

namespace ModuleScript.Pattern

/-- What is wrong with a written pattern. Escapes and marks are told as they are written. -/
inductive SyntaxFault where
  | openSet
  | badRange (first last : List Char)
  | badEscape (escape : List Char)
  | shortEscape (escape : List Char)
  | largeOctal (escape : List Char)
  /-- A backslash stands alone at the end. -/
  | loneEscape
  | noCharName
  | unknownMark (mark : List Char)
  | openMark
  | noGroupName
  | openGroupName
  | badGroupName (name : List Char)
  | repeatedName (name : List Char) (index earlier : Nat)
  | badReference (index : Nat)
  /-- A group is referred to within itself. -/
  | openReference
  | nothingToRepeat
  | repeatedRepeat
  | emptyRepeat
  | openGroup
  | strayClose
  deriving DecidableEq, Repr

/-- The wording of what is wrong, without the place. -/
def SyntaxFault.message : SyntaxFault → String
  | .openSet => "unterminated character set"
  | .badRange first last =>
    s!"bad character range {String.ofList first}-{String.ofList last}"
  | .badEscape escape => s!"bad escape {String.ofList escape}"
  | .shortEscape escape => s!"incomplete escape {String.ofList escape}"
  | .largeOctal escape =>
    s!"octal escape value {String.ofList escape} outside of range 0-0o377"
  | .loneEscape => "bad escape (end of pattern)"
  | .noCharName => "missing \x7b"
  | .unknownMark mark => s!"unknown extension ?{String.ofList mark}"
  | .openMark => "unexpected end of pattern"
  | .noGroupName => "missing group name"
  | .openGroupName => "missing >, unterminated name"
  | .badGroupName name => s!"bad character in group name {Text.quote (String.ofList name)}"
  | .repeatedName name index earlier =>
    s!"redefinition of group name {Text.quote (String.ofList name)} as group {index}; " ++
      s!"was group {earlier}"
  | .badReference index => s!"invalid group reference {index}"
  | .openReference => "cannot refer to an open group"
  | .nothingToRepeat => "nothing to repeat"
  | .repeatedRepeat => "multiple repeat"
  | .emptyRepeat => "min repeat greater than max repeat"
  | .openGroup => "missing ), unterminated subpattern"
  | .strayClose => "unbalanced parenthesis"

/-- The place at an offset of a pattern, as it is told. -/
def placeIn (pattern : List Char) (offset : Nat) : String :=
  let before := pattern.take offset
  let line := before.count '\n' + 1
  let column := (before.reverse.takeWhile (· != '\n')).length + 1
  if pattern.contains '\n' then s!" at position {offset} (line {line}, column {column})"
  else s!" at position {offset}"

/-- A limit that a written pattern goes beyond. -/
inductive Limit where
  /-- A number of rounds has too many digits to be read. -/
  | longNumber (digits : Nat)
  /-- A number of rounds is too large. -/
  | tooManyRounds
  /-- Groups are nested too deeply. -/
  | tooDeep
  /-- The reader does not take patterns of this kind. -/
  | unsupported
  /-- Another one, by its message. -/
  | other (message : String)
  deriving DecidableEq, Repr

/-- The wording of a limit. -/
def Limit.message : Limit → String
  | .longNumber digits => (Decimal.LengthFault.read digits).message
  | .tooManyRounds => "the repetition number is too large"
  | .tooDeep => "groups are nested too deeply"
  | .unsupported => "patterns of this kind are not read"
  | .other message => message

/-- Why a written pattern is not read: it is no pattern, which the compiler says in words of its own
(`re.error`), or it goes beyond a limit, which ends in any other way. -/
inductive Fault where
  | malformed (message : String)
  | limit (limit : Limit)
  deriving DecidableEq, Repr

/-- The wording of a fault. -/
def Fault.message : Fault → String
  | .malformed message => message
  | .limit l => l.message

/-- Why reading stops, when so many characters are left: something is wrong so many characters
`back` from there, or a limit is met. -/
inductive Stop where
  | malformed (fault : SyntaxFault) (left : Nat) (back : Nat := 0)
  | limit (limit : Limit) (left : Nat)
  deriving DecidableEq, Repr

namespace Stop

/-- The number of characters that are left. -/
def left : Stop → Nat
  | .malformed _ left _ | .limit _ left => left

/-- The fault of a pattern of which all but the last `unread` characters are read and where reading
stops like this. -/
def fault (pattern : List Char) (unread : Nat) : Stop → Fault
  | .malformed fault left back =>
    .malformed (fault.message ++ placeIn pattern (pattern.length - unread - left - back))
  | .limit l _ => .limit l

end Stop

end ModuleScript.Pattern
