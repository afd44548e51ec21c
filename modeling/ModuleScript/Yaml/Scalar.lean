import ModuleScript.Text.Hex
import ModuleScript.Yaml.Cursor

/-!
# Scalars

A scalar is plain, quoted, or a block of indented lines. Within plain and quoted scalars a
single line break becomes a space and of several all but the first are kept; a block keeps its
line breaks, or is folded in this way.
-/

namespace ModuleScript.Yaml

/-- The text that replaces a first line break followed by others. -/
def foldBreaks (first : Char) (others : List Char) : List Char :=
  if first != '\n' then first :: others
  else if others.isEmpty then [' ']
  else others

/-! ### Plain scalars -/

/-- Characters that end a plain scalar within brackets. -/
def isFlowMark (ch : Char) : Bool :=
  ch == ',' || ch == '?' || ch == '[' || ch == ']' || ch == '\x7b' || ch == '\x7d'

/-- Whether a colon before this character separates a key from its value. -/
def endsKey (inFlow : Bool) (after : Option Char) : Bool :=
  after.all fun ch ↦
    isGap ch || inFlow && (ch == ',' || ch == '[' || ch == ']' || ch == '\x7b' || ch == '\x7d')

/-- A run of a plain scalar without gaps. -/
def plainRun (inFlow : Bool) : List Char → List Char
  | [] => []
  | ch :: rest =>
    if isGap ch || (ch == ':' && endsKey inFlow rest.head?) || (inFlow && isFlowMark ch) then []
    else ch :: plainRun inFlow rest

/-- The further line breaks after the first one of a plain scalar, latest first; none when a
document ends or starts. -/
def plainBreaks : (fuel : Nat) → (found : List Char) → Cursor → Option (List Char) × Cursor
  | 0, found, c => (some found.reverse, c)
  | fuel + 1, found, c =>
    let c := c.skipWhile (· == ' ')
    match c.lineBreak? with
    | none => (some found.reverse, c)
    | some (ch, c) =>
      if c.atDocumentMarker then (none, c) else plainBreaks fuel (ch :: found) c

/-- The gap after a run of a plain scalar: its text, whether it holds a line break, and the
place after it. -/
def plainGap (c : Cursor) : List Char × Bool × Cursor :=
  let (spaces, c) := c.span (· == ' ')
  match c.lineBreak? with
  | none => (spaces, false, c)
  | some (first, c) =>
    if c.atDocumentMarker then ([], true, c)
    else match plainBreaks c.rest.length [] c with
      | (some others, c) => (foldBreaks first others, true, c)
      | (none, c) => ([], true, c)

/-- What is read of a plain scalar from a place on: its text, whether it ends with a line break,
and the place after it. Lines have to start at the column `indent` or further right. -/
def plainFrom (inFlow : Bool) (indent : Int) :
    (fuel : Nat) → (before : List Char) → (broken : Bool) → Cursor → List Char × Bool × Cursor
  | 0, _, broken, c => ([], broken, c)
  | fuel + 1, before, broken, c =>
    let run := plainRun inFlow c.rest
    if c.peek? == some '#' || run.isEmpty then ([], broken, c)
    else
      let (gap, broken, c) := plainGap (c.skip run.length)
      if gap.isEmpty || c.peek? == some '#' || (!inFlow && c.column < indent) then
        (before ++ run, broken, c)
      else
        let (text, broken, c) := plainFrom inFlow indent fuel gap broken c
        (before ++ run ++ text, broken, c)

/-- The plain scalar at a place. -/
def plainScalar (inFlow : Bool) (indent : Int) (c : Cursor) : List Char × Bool × Cursor :=
  plainFrom inFlow indent c.rest.length [] false c

/-! ### Quoted scalars -/

/-- The character that an escape letter stands for. -/
def unescape? : Char → Option Char
  | '0' => some '\x00'
  | 'a' => some '\x07'
  | 'b' => some '\x08'
  | 't' | '\t' => some '\t'
  | 'n' => some '\n'
  | 'v' => some '\x0b'
  | 'f' => some '\x0c'
  | 'r' => some '\r'
  | 'e' => some '\x1b'
  | ' ' => some ' '
  | '"' => some '"'
  | '\\' => some '\\'
  | '/' => some '/'
  | 'N' => some '\x85'
  | '_' => some '\xa0'
  | 'L' => some '\u2028'
  | 'P' => some '\u2029'
  | _ => none

/-- The number of hexadecimal digits after an escape letter. -/
def escapeWidth? : Char → Option Nat
  | 'x' => some 2
  | 'u' => some 4
  | 'U' => some 8
  | _ => none

/-- The character with a code point; half of a pair is replaced. -/
def charOf? (n : Nat) : Option Char :=
  if n.isValidChar then some (Char.ofNat n)
  else if n < 0xe000 then some '\ufffd'
  else none

/-- The further line breaks within a quoted scalar, where no document may start or end. -/
def quotedBreaks : (fuel : Nat) → (found : List Char) → Cursor → Except Fault (List Char × Cursor)
  | 0, found, c => .ok (found.reverse, c)
  | fuel + 1, found, c =>
    if c.atDocumentMarker then .error .malformed
    else
      let c := c.skipWhile fun ch ↦ ch == ' ' || ch == '\t'
      match c.lineBreak? with
      | some (ch, c) => quotedBreaks fuel (ch :: found) c
      | none => .ok (found.reverse, c)

/-- The text of a gap within a quoted scalar. -/
def quotedGap (c : Cursor) : Except Fault (List Char × Cursor) := do
  let (spaces, c) := c.span fun ch ↦ ch == ' ' || ch == '\t'
  if c.atEnd then throw .malformed
  match c.lineBreak? with
  | none => return (spaces, c)
  | some (first, c) =>
    let (others, c) ← quotedBreaks c.rest.length [] c
    return (foldBreaks first others, c)

/-- The text of an escape, from the place after its backslash. -/
def escaped (c : Cursor) : Except Fault (List Char × Cursor) := do
  match c.lineBreak?, c.peek? with
  | some (_, c), _ => quotedBreaks c.rest.length [] c
  | none, none => throw .malformed
  | none, some letter =>
    match unescape? letter, escapeWidth? letter with
    | some ch, _ => return ([ch], c.next)
    | none, some width =>
      let digits := c.next.rest.take width
      if digits.length < width then throw .malformed
      match (Text.hexNumber? digits).bind charOf? with
      | some ch => return ([ch], c.skip (width + 1))
      | none => throw .malformed
    | none, none => throw .malformed

/-- The text of a quoted scalar up to its closing mark; `found` is the text before, reversed. -/
def quotedFrom (mark : Char) :
    (fuel : Nat) → (found : List Char) → Cursor → Except Fault (List Char × Cursor)
  | 0, _, _ => .error .malformed
  | fuel + 1, found, c =>
    match c.peek? with
    | none => .error .malformed
    | some ch => do
      if ch == mark then
        if mark == '\'' && c.peekAt? 1 == some '\'' then
          quotedFrom mark fuel (ch :: found) (c.skip 2)
        else return (found.reverse, c.next)
      else if ch == '\\' && mark == '"' then
        let (text, c) ← escaped c.next
        quotedFrom mark fuel (text.reverse ++ found) c
      else if isGap ch then
        let (text, c) ← quotedGap c
        quotedFrom mark fuel (text.reverse ++ found) c
      else quotedFrom mark fuel (ch :: found) c.next

/-- The quoted scalar at a place. -/
def quotedScalar (mark : Char) (c : Cursor) : Except Fault (List Char × Cursor) :=
  quotedFrom mark (c.rest.length + 1) [] c.next

/-! ### Block scalars -/

/-- What becomes of the line breaks at the end of a block. -/
inductive Chomping where
  | strip
  | clip
  | keep
  deriving DecidableEq, Repr

/-- The sign of a chomping, if one is at the place. -/
def chompingAt (c : Cursor) : Option Chomping :=
  match c.peek? with
  | some '+' => some .keep
  | some '-' => some .strip
  | _ => none

/-- The digit of an indentation, if one is at the place. -/
def incrementAt (c : Cursor) : Option Nat :=
  match c.peek? with
  | some ch => if Text.isAsciiDigit ch then some (ch.toNat - 48) else none
  | none => none

/-- The place after a mark, if there is one. -/
def skipIf {α : Type} (c : Cursor) (mark : Option α) : Cursor := if mark.isSome then c.next else c

/-- Chomping and indentation of a block, in either order, and the place of its first line. -/
def blockHeader (c : Cursor) : Except Fault (Chomping × Option Nat × Cursor) := do
  let first := chompingAt c
  let c := skipIf c first
  let increment := incrementAt c
  let c := skipIf c increment
  let second := if first.isNone && increment.isSome then chompingAt c else none
  let c := skipIf c second
  if increment == some 0 || !c.atLineEndOrSpace then throw .malformed
  return ((first.orElse fun _ ↦ second).getD .clip, increment, ← c.skipEmptyLine)

/-- The line breaks before the first line of a block, and the greatest column reached. -/
def leadingBreaks : (fuel : Nat) → (found : List Char) → (widest : Nat) → Cursor →
    List Char × Nat × Cursor
  | 0, found, widest, c => (found.reverse, widest, c)
  | fuel + 1, found, widest, c =>
    let c := c.skipWhile (· == ' ')
    let widest := max widest c.column
    match c.lineBreak? with
    | some (ch, c) => leadingBreaks fuel (ch :: found) widest c
    | none => (found.reverse, widest, c)

/-- The place after at most so many spaces that the column `indent` is reached. -/
def skipIndent (indent : Nat) (c : Cursor) : Cursor :=
  c.skip ((c.rest.take (indent - c.column)).takeWhile (· == ' ')).length

/-- The line breaks between two lines of a block. -/
def blockBreaks (indent : Nat) : (fuel : Nat) → (found : List Char) → Cursor → List Char × Cursor
  | 0, found, c => (found.reverse, c)
  | fuel + 1, found, c =>
    let c := skipIndent indent c
    match c.lineBreak? with
    | some (ch, c) => blockBreaks indent fuel (ch :: found) c
    | none => (found.reverse, c)

/-- Whether a line starts with a space or a tab. -/
def startsBlank (c : Cursor) : Bool := c.peek?.any fun ch ↦ ch == ' ' || ch == '\t'

/-- The text between two lines of a block. -/
def betweenLines (folded afterBlank beforeBlank : Bool) (first : Char) (others : List Char) :
    List Char :=
  if folded && first == '\n' && !afterBlank && !beforeBlank then foldBreaks first others
  else first :: others

/-- The lines of a block, and the breaks after its last line. -/
def blockLines (folded : Bool) (indent : Nat) : (fuel : Nat) → Cursor →
    List Char × List Char × Cursor
  | 0, c => ([], [], c)
  | fuel + 1, c =>
    let (line, after) := c.span (!isBreak ·)
    match after.lineBreak? with
    | none => (line, [], after)
    | some (first, next) =>
      let (others, next) := blockBreaks indent next.rest.length [] next
      if next.column == indent && !next.atEnd then
        let gap := betweenLines folded (startsBlank c) (startsBlank next) first others
        let (text, breaks, last) := blockLines folded indent fuel next
        (line ++ gap ++ text, breaks, last)
      else (line, first :: others, next)

/-- The line breaks that remain at the end of a block. -/
def Chomping.apply : Chomping → List Char → List Char
  | .strip, _ => []
  | .clip, breaks => breaks.take 1
  | .keep, breaks => breaks

/-- The block scalar at a place, within a block whose column is `parent`. -/
def blockScalar (folded : Bool) (parent : Int) (c : Cursor) :
    Except Fault (List Char × Cursor) := do
  let (chomping, increment, c) ← blockHeader c.next
  let least := max (parent + 1) 1 |>.toNat
  let (breaks, indent, c) := match increment with
    | none =>
      let (breaks, widest, c) := leadingBreaks c.rest.length [] 0 c
      (breaks, max least widest, c)
    | some n =>
      let indent := least + n - 1
      let (breaks, c) := blockBreaks indent c.rest.length [] c
      (breaks, indent, c)
  if c.column == indent && !c.atEnd then
    let (text, last, c) := blockLines folded indent c.rest.length c
    return (breaks ++ text ++ chomping.apply last, c)
  else
    return (if chomping = .keep then breaks else [], c)

end ModuleScript.Yaml
