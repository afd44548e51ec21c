import ModuleScript.Text.Utf8
import ModuleScript.Yaml.Scalar
import ModuleScript.Yaml.Token

/-!
# Cutting a YAML text into tokens

A key is known as such only by the colon behind its value, so places where a key may have
started are remembered, and its token is put in there later. Such a key stands on one line and
is at most 1024 characters long. Outside of brackets, indentation opens and closes blocks.
Tokens are cut when they are asked for, and no further ahead than a key may have started.
-/

namespace ModuleScript.Yaml

/-- A place where a key may have started: the number of the tokens before it, and whether only
a key can stand there. -/
structure KeyStart where
  token : Nat
  required : Bool
  offset : Nat
  line : Nat
  column : Nat
  deriving DecidableEq, Repr

/-- Cutting under way. -/
structure Lexer where
  cursor : Cursor
  /-- The number of characters of the text. -/
  size : Nat
  /-- The tokens that are cut and not yet taken. -/
  ahead : List Token := []
  /-- The number of the tokens that are taken. -/
  taken : Nat := 0
  /-- Whether the end of the text has been cut. -/
  isDone : Bool := false
  /-- The column of the innermost block, -1 outside of all blocks. -/
  indent : Int := -1
  /-- The columns of the blocks around it. -/
  outerIndents : List Int := []
  /-- Where a key may have started within the innermost brackets. -/
  keyStart : Option KeyStart := none
  /-- The same for the brackets around it, one for each. -/
  outerKeyStarts : List (Option KeyStart) := []
  /-- Whether a key may start at the next token. -/
  keyAllowed : Bool := true

namespace Lexer

/-- Whether the place is within brackets. -/
def inFlow (l : Lexer) : Bool := !l.outerKeyStarts.isEmpty

/-- The number of the token to be cut next. -/
def number (l : Lexer) : Nat := l.taken + l.ahead.length

/-- Append a token. -/
def push (l : Lexer) (t : Token) : Lexer := { l with ahead := l.ahead ++ [t] }

/-- Append a token whose text is the next `n` characters. -/
def take (l : Lexer) (n : Nat) (t : Token) : Lexer :=
  { l.push t with cursor := l.cursor.skip n }

/-- Put a token in before the token of a number. -/
def insertAt (l : Lexer) (n : Nat) (t : Token) : Lexer :=
  let (before, after) := l.ahead.splitAt (n - l.taken)
  { l with ahead := before ++ t :: after }

/-- Forget where a key may have started, which is an error if a key is required there. -/
def dropKeyStart (l : Lexer) : Except Fault Lexer :=
  if l.keyStart.any (·.required) then .error .malformed else .ok { l with keyStart := none }

/-- Remember that a key may start here, if it may. -/
def saveKeyStart (l : Lexer) : Except Fault Lexer := do
  if !l.keyAllowed then return l
  let l ← l.dropKeyStart
  let c := l.cursor
  return { l with
    keyStart := some {
      token := l.number
      required := !l.inFlow && l.indent == c.column
      offset := c.offset, line := c.line, column := c.column } }

/-- Whether a key that started there can still end here. -/
def KeyStart.isOpen (k : KeyStart) (c : Cursor) : Bool :=
  k.line == c.line && c.offset - k.offset ≤ 1024

/-- Forget the start of a key that can no longer end, which is an error if one is required. -/
def refreshKeyStart (c : Cursor) : Option KeyStart → Except Fault (Option KeyStart)
  | none => .ok none
  | some k =>
    if KeyStart.isOpen k c then .ok (some k)
    else if k.required then .error .malformed
    else .ok none

/-- Forget all starts of keys that can no longer end. -/
def refreshKeyStarts (l : Lexer) : Except Fault Lexer := do
  return { l with
    keyStart := ← refreshKeyStart l.cursor l.keyStart
    outerKeyStarts := ← l.outerKeyStarts.mapM (refreshKeyStart l.cursor) }

/-- The blocks that remain when those right of a column end, and the number of ended ones. -/
def unwindFrom (column : Int) (indent : Int) : List Int → Int × List Int × Nat
  | [] => (indent, [], 0)
  | outer :: rest =>
    if column < indent then
      let (indent, rest, ended) := unwindFrom column outer rest
      (indent, rest, ended + 1)
    else (indent, outer :: rest, 0)

/-- End the blocks right of a column; within brackets there are none. -/
def unwind (l : Lexer) (column : Int) : Lexer :=
  if l.inFlow then l
  else
    let (indent, outerIndents, ended) := unwindFrom column l.indent l.outerIndents
    { l with indent, outerIndents, ahead := l.ahead ++ List.replicate ended Token.blockEnd }

/-- Start a block at a column, unless a block has started there already. The token of its start
goes before the token of a number. -/
def openBlock (l : Lexer) (column number : Nat) (start : Token) : Lexer :=
  if l.inFlow || column ≤ l.indent then l
  else
    { l with indent := column, outerIndents := l.indent :: l.outerIndents }.insertAt number start

/-- Go on to the next token, over spaces, comments and line breaks. -/
def skipGaps : (fuel : Nat) → Lexer → Lexer
  | 0, l => l
  | fuel + 1, l =>
    let c := (l.cursor.skipWhile (· == ' ')).skipComment
    match c.lineBreak? with
    | some (_, c) => skipGaps fuel { l with cursor := c, keyAllowed := l.keyAllowed || !l.inFlow }
    | none => { l with cursor := c }

/-- Close all blocks at the end of a document. -/
def endBlocks (l : Lexer) : Except Fault Lexer := do
  return { ← (l.unwind (-1)).dropKeyStart with keyAllowed := false }

/-- An opening bracket. -/
def openFlow (l : Lexer) (t : Token) : Except Fault Lexer := do
  let l ← l.saveKeyStart
  return { l.take 1 t with
    keyStart := none, outerKeyStarts := l.keyStart :: l.outerKeyStarts, keyAllowed := true }

/-- A closing bracket; there has to be an open one. -/
def closeFlow (l : Lexer) (t : Token) : Except Fault Lexer := do
  let l ← l.dropKeyStart
  match l.outerKeyStarts with
  | [] => throw .malformed
  | keyStart :: outerKeyStarts =>
    return { l.take 1 t with keyStart, outerKeyStarts, keyAllowed := false }

/-- A comma. -/
def flowEntry (l : Lexer) : Except Fault Lexer := do
  return { ← (l.take 1 .flowEntry).dropKeyStart with keyAllowed := true }

/-- The hyphen of an item. -/
def blockEntry (l : Lexer) : Except Fault Lexer := do
  if !l.inFlow && !l.keyAllowed then throw .malformed
  let l := l.openBlock l.cursor.column l.number .blockSequenceStart
  return { ← (l.take 1 .blockEntry).dropKeyStart with keyAllowed := true }

/-- The question mark of a key. -/
def explicitKey (l : Lexer) : Except Fault Lexer := do
  if !l.inFlow && !l.keyAllowed then throw .malformed
  let l := l.openBlock l.cursor.column l.number .blockMappingStart
  return { ← (l.take 1 .key).dropKeyStart with keyAllowed := !l.inFlow }

/-- The colon of a value, which makes what stands before it a key. -/
def mappingValue (l : Lexer) : Except Fault Lexer := do
  match l.keyStart with
  | some k =>
    let l := { l with keyStart := none }.insertAt k.token .key
    return { (l.openBlock k.column k.token .blockMappingStart).take 1 .value with
      keyAllowed := false }
  | none =>
    if !l.inFlow && !l.keyAllowed then throw .malformed
    let l := l.openBlock l.cursor.column l.number .blockMappingStart
    return { ← (l.take 1 .value).dropKeyStart with keyAllowed := !l.inFlow }

/-- Append a token that may be or start a key, and go on behind it. -/
def inlineToken (l : Lexer) (scan : Cursor → Except Fault (Token × Cursor)) :
    Except Fault Lexer := do
  let l ← l.saveKeyStart
  let (t, cursor) ← scan l.cursor
  return { l.push t with cursor, keyAllowed := false }

/-- The name of an anchor or alias, after its mark. -/
def anchorName (c : Cursor) : Except Fault (String × Cursor) :=
  let (name, c) := c.next.span isNameChar
  let ends := c.atGap || c.peek?.any fun ch ↦ "?:,]\x7d%@`".toList.contains ch
  if name.isEmpty || !ends then .error .malformed else .ok (String.ofList name, c)

/-- Characters of the text of a tag. -/
def isTagChar (ch : Char) : Bool :=
  Text.isAsciiUpper ch || Text.isAsciiLower ch || Text.isAsciiDigit ch ||
    "-;/?:@&=+$,_.!~*'()[]".toList.contains ch

/-- The bytes of a run of percent escapes. -/
def percentBytes : (fuel : Nat) → Cursor → Except Fault (List UInt8 × Cursor)
  | 0, c => .ok ([], c)
  | fuel + 1, c =>
    match c.rest with
    | '%' :: a :: b :: _ => do
      match Text.hexNumber? [a, b] with
      | some n =>
        let (bytes, c) ← percentBytes fuel (c.skip 3)
        return (UInt8.ofNat n :: bytes, c)
      | none => throw .malformed
    | '%' :: _ => .error .malformed
    | _ => .ok ([], c)

/-- The text of a tag from a place on. -/
def tagText : (fuel : Nat) → Cursor → Except Fault (String × Cursor)
  | 0, c => .ok ("", c)
  | fuel + 1, c => do
    let (run, c) := c.span isTagChar
    if c.peek? == some '%' then
      let (bytes, c) ← percentBytes c.rest.length c
      let decoded ← (Text.Utf8.decode bytes).mapError fun _ ↦ .malformed
      let (more, c) ← tagText fuel c
      return (String.ofList run ++ decoded ++ more, c)
    else return (String.ofList run, c)

/-- The text of a tag, which is not empty. -/
def filledTagText (c : Cursor) : Except Fault (String × Cursor) := do
  let (text, c) ← tagText (c.rest.length + 1) c
  if text.isEmpty then throw .malformed else return (text, c)

/-- The handle of a tag: an exclamation mark, or a name between two of them. -/
def tagHandle (c : Cursor) : Except Fault (String × Cursor) := do
  if c.peek? != some '!' then throw .malformed
  if c.peekAt? 1 == some ' ' then return ("!", c.next)
  let (name, c) := c.next.span isNameChar
  if c.peek? != some '!' then throw .malformed
  return ("!" ++ String.ofList name ++ "!", c.next)

/-- The tag at a place: in angle brackets, a lone exclamation mark, or with a handle. -/
def scanTag (c : Cursor) : Except Fault (Token × Cursor) := do
  let (t, c) ←
    if c.peekAt? 1 == some '<' then do
      let (text, c) ← filledTagText (c.skip 2)
      if c.peek? != some '>' then throw .malformed
      pure (Token.tag none text, c.next)
    else if c.gapAt 1 then pure (Token.tag none "!", c.next)
    else do
      let word := c.next.rest.takeWhile fun ch ↦ ch != ' ' && !isBreak ch
      let (handle, c) ← if word.contains '!' then tagHandle c else pure ("!", c.next)
      let (text, c) ← filledTagText c
      pure (Token.tag (some handle) text, c)
  if c.atLineEndOrSpace then return (t, c) else throw .malformed

/-- The number at a place. -/
def versionNumber (c : Cursor) : Except Fault (Nat × Cursor) :=
  let (digits, c) := c.span Text.isAsciiDigit
  if digits.isEmpty then .error .malformed
  else if Decimal.digitLimit < digits.length then .error (.longNumber (.read digits.length))
  else .ok (digits.foldl (fun n d ↦ n * 10 + (d.toNat - 48)) 0, c)

/-- The directive at a place. -/
def scanDirective (c : Cursor) : Except Fault (Token × Cursor) := do
  let spaces (c : Cursor) := c.skipWhile (· == ' ')
  let (name, c) := c.next.span isNameChar
  if name.isEmpty || !c.atLineEndOrSpace then throw .malformed
  let (t, c) ←
    if name == "YAML".toList then do
      let (major, c) ← versionNumber (spaces c)
      if c.peek? != some '.' then throw .malformed
      let (_, c) ← versionNumber c.next
      if !c.atLineEndOrSpace then throw .malformed
      pure (Token.version major, c)
    else if name == "TAG".toList then do
      let (handle, c) ← tagHandle (spaces c)
      if c.peek? != some ' ' then throw .malformed
      let (start, c) ← filledTagText (spaces c)
      if !c.atLineEndOrSpace then throw .malformed
      pure (Token.tagHandle handle start, c)
    else pure (Token.otherDirective, c.skipWhile (!isBreak ·))
  return (t, ← c.skipEmptyLine)

/-- A scalar in quotation marks or apostrophes. -/
def scanQuoted (mark : Char) (c : Cursor) : Except Fault (Token × Cursor) := do
  let (text, c) ← quotedScalar mark c
  return (.scalar (String.ofList text) false, c)

/-- A block scalar. -/
def blockText (l : Lexer) (folded : Bool) : Except Fault Lexer := do
  let l ← l.dropKeyStart
  let (text, cursor) ← blockScalar folded l.indent l.cursor
  return { l.push (.scalar (String.ofList text) false) with cursor, keyAllowed := true }

/-- A plain scalar; a key may start behind it if it ends with a line break. -/
def plainText (l : Lexer) : Except Fault Lexer := do
  let l ← l.saveKeyStart
  let (text, broken, cursor) := plainScalar l.inFlow (l.indent + 1) l.cursor
  return { l.push (.scalar (String.ofList text) true) with cursor, keyAllowed := broken }

/-- Whether a plain scalar can start with this character. -/
def startsPlain (l : Lexer) (ch : Char) : Bool :=
  !(isGap ch || "-?:,[]\x7b\x7d#&*!|>'\"%@`".toList.contains ch) ||
    !l.cursor.gapAt 1 && (ch == '-' || !l.inFlow && (ch == '?' || ch == ':'))

/-- The token that starts with the character at the place. -/
def token (l : Lexer) (ch : Char) : Except Fault Lexer := do
  let c := l.cursor
  let lineStart := c.column == 0
  -- Within brackets a question mark or colon needs no gap behind it.
  let marks := l.inFlow || c.gapAt 1
  if lineStart && ch == '%' then
    let l ← l.endBlocks
    let (t, cursor) ← scanDirective c
    return { l.push t with cursor }
  else if lineStart && c.atMarker '-' then return (← l.endBlocks).take 3 .documentStart
  else if lineStart && c.atMarker '.' then return (← l.endBlocks).take 3 .documentEnd
  else if ch == '[' then l.openFlow .flowSequenceStart
  else if ch == '\x7b' then l.openFlow .flowMappingStart
  else if ch == ']' then l.closeFlow .flowSequenceEnd
  else if ch == '\x7d' then l.closeFlow .flowMappingEnd
  else if ch == ',' then l.flowEntry
  else if ch == '-' && c.gapAt 1 then l.blockEntry
  else if ch == '?' && marks then l.explicitKey
  else if ch == ':' && marks then l.mappingValue
  else if ch == '*' then l.inlineToken fun c ↦ do
    let (name, c) ← anchorName c
    return (.alias name, c)
  else if ch == '&' then l.inlineToken fun c ↦ do
    let (name, c) ← anchorName c
    return (.anchor name, c)
  else if ch == '!' then l.inlineToken scanTag
  else if (ch == '|' || ch == '>') && !l.inFlow then l.blockText (ch == '>')
  else if ch == '\'' || ch == '"' then l.inlineToken (scanQuoted ch)
  else if l.startsPlain ch then l.plainText
  else throw .malformed

/-- Whether a plain scalar starts here behind which there is nothing but a line break. -/
def plainEndsText (l : Lexer) : Bool :=
  let (_, broken, c) := plainScalar l.inFlow (l.indent + 1) l.cursor
  broken && c.atEnd

/-- The greatest number of nested steps that it takes to cut a token. -/
def greatestEffort : Nat := 7

/-- The number of nested steps that it takes to cut the token that starts with a character. -/
def effort (l : Lexer) : Option Char → Nat
  | none => if l.indent < 0 then 4 else 5
  | some ch =>
    let marks := l.inFlow || l.cursor.gapAt 1
    if ch == '[' || ch == '\x7b' then if l.keyAllowed then 6 else 5
    else if ch == ',' || marks && (ch == '?' || ch == ':') || ch == '-' && l.cursor.gapAt 1 then 4
    else if (ch == '|' || ch == '>') && !l.inFlow then 7
    else if ch == '\'' || ch == '"' then 6
    else if l.startsPlain ch then if l.plainEndsText then 6 else 5
    else 5

/-- Go on to the next token and cut it off, if there is room for so many nested steps. -/
def cut (room : Nat) (l : Lexer) : Except Fault Lexer := do
  let l ← (l.skipGaps (l.size + 1)).refreshKeyStarts
  let l := l.unwind l.cursor.column
  let next := l.cursor.peek?
  if room < greatestEffort && room < l.effort next then throw .tooDeep
  match next with
  | some ch => l.token ch
  | none => return { (← l.endBlocks).push .streamEnd with outerKeyStarts := [], isDone := true }

/-- Whether the next token is still to be cut, or may turn out to be a key. -/
def isUnsettled (l : Lexer) : Bool :=
  !l.isDone &&
    (l.ahead.isEmpty || (l.keyStart :: l.outerKeyStarts).any (·.any (·.token == l.taken)))

/-- Cut tokens until the next one is settled. To look at it takes some nested steps as well. -/
def settle (room : Nat) : (fuel : Nat) → Lexer → Except Fault Lexer
  | 0, l => .ok l
  | fuel + 1, l => do
    if room < (if l.isDone then 2 else 3) then throw .tooDeep
    let l ← if l.isDone || l.ahead.isEmpty then pure l else l.refreshKeyStarts
    if l.isUnsettled then settle room fuel (← l.cut (room - 2)) else return l

end Lexer

/-- Characters that a YAML text may hold. -/
def isTextChar (ch : Char) : Bool :=
  ch == '\t' || ch == '\n' || ch == '\r' || ch == '\x85' || (' ' ≤ ch && ch ≤ '~') ||
    ('\xa0' ≤ ch && ch ≤ '\ufffd') || 0x10000 ≤ ch.toNat

/-- The start of cutting a text; a byte order mark at its start is skipped. -/
def Lexer.ofText? (text : List Char) : Except Fault Lexer :=
  if text.all isTextChar then
    let start : Cursor := { rest := text }
    let cursor := if text.head? == some '\ufeff' then start.next else start
    .ok { cursor, size := text.length }
  else .error .malformed

end ModuleScript.Yaml
