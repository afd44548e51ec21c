import ModuleScript.Pattern.Fault
import ModuleScript.Pattern.Node

/-!
# Tokens of a written pattern

A written pattern is cut into tokens from left to right: single characters and sets of them,
conditions, group marks, bars and repetitions. Cutting fails on a set or a group mark that is
not closed, on a range that runs backwards, on an unknown escape and on a number of rounds that
is too large.

The reader takes the language of `re.compile` but for flags, comments, looking behind, atomic
groups, conditions on groups, references to groups, and characters by their names. What it does not
take it says so, and calls it neither a pattern nor malformed.
-/

namespace ModuleScript.Pattern

/-- How a repetition chooses the number of its rounds. -/
inductive Preference where
  /-- As many as possible first. -/
  | greedy
  /-- As few as possible first. -/
  | lazy
  /-- As many as possible, and nothing else. -/
  | possessive
  deriving DecidableEq, Repr

/-- The repetition of a node. -/
def Node.repeated (n : Node) (least : Nat) (most : Option Nat) : Preference → Node
  | .greedy => .loop n least most true
  | .lazy => .loop n least most false
  | .possessive => n.possessive least most

/-- A token of a written pattern. -/
inductive Token where
  | char (set : CharSet)
  | anchor (a : Anchor)
  | groupStart
  | namedStart (name : List Char)
  | plainStart
  | aheadStart (positive : Bool)
  | groupEnd
  | reference (index : Nat)
  | bar
  | times (least : Nat) (most : Option Nat) (preference : Preference)
  deriving DecidableEq, Repr

namespace Token

/-- The value of a run of decimal digits. -/
def number (digits : List Char) : Nat := digits.foldl (fun n c ↦ n * 10 + (c.toNat - 48)) 0

/-- Characters that an escape letter stands for. -/
def control? : Char → Option Char
  | 'a' => some '\x07'
  | 'f' => some '\x0c'
  | 'n' => some '\n'
  | 'r' => some '\r'
  | 't' => some '\t'
  | 'v' => some '\x0b'
  | '\\' => some '\\'
  | _ => none

/-- Classes that an escape letter stands for. -/
def class? : Char → Option CharItem
  | 'd' => some (.oneOf .digit)
  | 'D' => some (.noneOf .digit)
  | 's' => some (.oneOf .blank)
  | 'S' => some (.noneOf .blank)
  | 'w' => some (.oneOf .word)
  | 'W' => some (.noneOf .word)
  | _ => none

/-- Conditions that an escape letter stands for. -/
def anchor? : Char → Option Anchor
  | 'A' => some .textStart
  | 'b' => some .wordEdge
  | 'B' => some .noWordEdge
  | 'Z' => some .absoluteEnd
  | _ => none

/-- Digits of an octal numeral. -/
def isOctal (c : Char) : Bool := '0' ≤ c && c ≤ '7'

/-- The greatest code point. -/
def lastCodePoint : Nat := 0x10ffff

/-- An escape is not finished or denotes nothing. -/
def stopAt (fault : List Char → SyntaxFault) (escape rest : List Char) : Stop :=
  .malformed (fault escape) rest.length escape.length

/-- A numeric escape `c` of exactly `width` hexadecimal digits. -/
def hexEscape (c : Char) (width : Nat) (rest : List Char) : Except Stop (CharItem × List Char) :=
  let digits := (rest.take width).takeWhile fun d ↦ (Text.hexValue? d).isSome
  let escape := '\\' :: c :: digits
  let rest := rest.drop digits.length
  if digits.length < width then .error (stopAt .shortEscape escape rest)
  else match Text.hexNumber? digits with
    | some n =>
      if n ≤ lastCodePoint then .ok (.ofCodePoint n, rest)
      else .error (stopAt .badEscape escape rest)
    | none => .error (stopAt .badEscape escape rest)

/-- A single character given by the escape letter `c`, inside or outside a set. -/
def escapedChar (c : Char) (rest : List Char) : Except Stop (CharItem × List Char) :=
  match control? c with
  | some d => .ok (.single d, rest)
  | none =>
    if c == 'x' then hexEscape c 2 rest
    else if c == 'u' then hexEscape c 4 rest
    else if c == 'U' then hexEscape c 8 rest
    else if c == 'N' then
      .error (if rest.head? == some '{' then .limit .unsupported rest.length
        else .malformed .noCharName rest.length)
    else if Text.isAsciiUpper c || Text.isAsciiLower c || Text.isAsciiDigit c then
      .error (stopAt .badEscape ['\\', c] rest)
    else .ok (.single c, rest)

/-- The value of a run of octal digits. -/
def octalNumber (digits : List Char) : Nat := digits.foldl (fun n d ↦ n * 8 + (d.toNat - 48)) 0

/-- The character of an octal escape up to 377. -/
def octalEscape (digits rest : List Char) : Except Stop (CharItem × List Char) :=
  if octalNumber digits ≤ 255 then .ok (.single (Char.ofNat (octalNumber digits)), rest)
  else .error (stopAt .largeOctal ('\\' :: digits) rest)

/-- A reference to a group by its number of one digit or two. -/
def groupReference (c : Char) (rest : List Char) : Token × List Char :=
  let more := (rest.take 1).takeWhile Text.isAsciiDigit
  (.reference (number (c :: more)), rest.drop more.length)

/-- The token of the escaped digit `c`: an octal escape of zero and two more digits, or of three
digits, or else a reference. -/
def digitEscape (c : Char) (rest : List Char) : Except Stop (Token × List Char) :=
  if c == '0' then
    let more := (rest.take 2).takeWhile isOctal
    .ok (.char (.single (Char.ofNat (octalNumber more))), rest.drop more.length)
  else
    let digits := c :: rest.take 2
    if digits.length == 3 && digits.all isOctal then do
      let (item, rest) ← octalEscape digits (rest.drop 2)
      return (.char { items := [item] }, rest)
    else .ok (groupReference c rest)

/-- The token of the escape letter `c` outside a set. -/
def escape (c : Char) (rest : List Char) : Except Stop (Token × List Char) :=
  match class? c, anchor? c with
  | some item, _ => .ok (.char { items := [item] }, rest)
  | none, some a => .ok (.anchor a, rest)
  | none, none =>
    if Text.isAsciiDigit c then digitEscape c rest
    else do
      let (item, rest') ← escapedChar c rest
      return (.char { items := [item] }, rest')

/-- The demand of the escape letter `c` inside a set. -/
def setEscape (c : Char) (rest : List Char) : Except Stop (CharItem × List Char) :=
  match class? c with
  | some item => .ok (item, rest)
  | none =>
    if c == 'b' then .ok (.single '\x08', rest)
    else if isOctal c then
      let more := (rest.take 2).takeWhile isOctal
      octalEscape (c :: more) (rest.drop more.length)
    else escapedChar c rest

/-- The first character of a text, or the first two if that is a backslash, and what follows. -/
def firstMark : List Char → List Char × List Char
  | '\\' :: c :: rest => (['\\', c], rest)
  | c :: rest => ([c], rest)
  | [] => ([], [])

/-- One end of a range, or a demand that stands alone, in a set that starts `start` characters
before the end. -/
def setItem (start : Nat) : List Char → Except Stop (CharItem × List Char)
  | [] => .error (.malformed .openSet 0 start)
  | '\\' :: c :: rest => setEscape c rest
  | c :: rest => .ok (.single c, rest)

/-- The demand at the front of a set, or a range when a hyphen follows it; a hyphen before the
closing bracket stands for itself. -/
def setRange (start : Nat) (text : List Char) : Except Stop (List CharItem × List Char) := do
  let (item, rest) ← setItem start text
  match rest with
  | '-' :: ']' :: rest => return ([item, .single '-'], ']' :: rest)
  | '-' :: other =>
    let (last, rest) ← setItem start other
    match item.through? last with
    | some range => return ([range], rest)
    | none =>
      let (first, last) := ((firstMark text).1, (firstMark other).1)
      throw (.malformed (.badRange first last) rest.length (first.length + 1 + last.length))
  | _ => return ([item], rest)

/-- The demands of a set up to its closing bracket, `found` being those before, latest first.
A bracket that comes first stands for itself. -/
def setItems (start : Nat) : (fuel : Nat) → (found : List CharItem) → List Char →
    Except Stop (List CharItem × List Char)
  | 0, _, _ => .error (.malformed .openSet 0 start)
  | _ + 1, found@(_ :: _), ']' :: rest => .ok (found.reverse, rest)
  | fuel + 1, found, text => do
    let (items, rest) ← setRange start text
    setItems start fuel (items.reverse ++ found) rest

/-- A set after its opening bracket. -/
def set (text : List Char) : Except Stop (Token × List Char) := do
  let (complemented, body) := match text with
    | '^' :: rest => (true, rest)
    | _ => (false, text)
  let (items, rest) ← setItems (text.length + 1) (body.length + 1) [] body
  return (.char { items, complemented }, rest)

/-- The digits of the bounds of a repetition after its opening brace, and the text after its
closing one; none when the brace is no repetition. -/
def bounds? (text : List Char) : Option (List Char × List Char × List Char) :=
  let low := text.takeWhile Text.isAsciiDigit
  match text.dropWhile Text.isAsciiDigit with
  | '}' :: rest => if low.isEmpty then none else some (low, low, rest)
  | ',' :: rest =>
    let high := rest.takeWhile Text.isAsciiDigit
    match rest.dropWhile Text.isAsciiDigit with
    | '}' :: rest => some (low, high, rest)
    | _ => none
  | _ => none

/-- The least number of rounds that is too large. -/
def roundLimit : Nat := 4294967295

/-- The bound that digits denote, none without digits. -/
def bound? (digits rest : List Char) : Except Stop (Option Nat) :=
  if digits.isEmpty then .ok none
  else if Decimal.digitLimit < digits.length then
    .error (.limit (.longNumber digits.length) rest.length)
  else if roundLimit ≤ number digits then .error (.limit .tooManyRounds rest.length)
  else .ok (some (number digits))

/-- A repetition, made lazy by a question mark behind it and possessive by a plus sign. -/
def repetition (least : Nat) (most : Option Nat) (rest : List Char) : Token × List Char :=
  match rest with
  | '?' :: rest => (.times least most .lazy, rest)
  | '+' :: rest => (.times least most .possessive, rest)
  | _ => (.times least most .greedy, rest)

/-- A repetition with bounds in braces, or an opening brace that stands for itself. -/
def braces (text : List Char) : Except Stop (Token × List Char) := do
  match bounds? text with
  | none => return (.char (.single '{'), text)
  | some (low, high, rest) =>
    let least := (← bound? low rest).getD 0
    let most ← bound? high rest
    if most.any (· < least) then
      throw (.malformed .emptyRepeat rest.length (text.length - rest.length))
    return repetition least most rest

/-- The name of a group: word characters, the first of which is no digit. -/
def isGroupName : List Char → Bool
  | [] => false
  | c :: rest => Text.isWord c && !Text.isDigit c && rest.all Text.isWord

/-- The name up to an angle bracket, which is not one behind a backslash, and what follows the
bracket if there is one. -/
def nameUpToBracket : List Char → List Char × Option (List Char)
  | [] => ([], none)
  | '\\' :: c :: rest =>
    let (name, rest) := nameUpToBracket rest
    ('\\' :: c :: name, rest)
  | c :: rest =>
    if c == '>' then ([], some rest)
    else
      let (name, rest) := nameUpToBracket rest
      (c :: name, rest)

/-- A mark of a named group after its opening angle bracket. -/
def namedGroup (text : List Char) : Except Stop (Token × List Char) :=
  match nameUpToBracket text with
  | ([], none) => .error (.malformed .noGroupName 0)
  | (name, none) => .error (.malformed .openGroupName 0 name.length)
  | ([], some rest) => .error (.malformed .noGroupName rest.length 1)
  | (name, some rest) =>
    if isGroupName name then .ok (.namedStart name, rest)
    else .error (.malformed (.badGroupName name) rest.length (name.length + 1))

/-- The characters behind a question mark that start what the reader does not take: atomic groups,
conditions, comments and flags. -/
def unsupportedMarks : List Char := ['>', '(', '#', '-', 'a', 'i', 'L', 'm', 's', 't', 'u', 'x']

/-- A mark that is none, after what is known of it. -/
def unknownMark (known text : List Char) : Stop :=
  match firstMark text with
  | ([], _) => .malformed .openMark 0
  | (mark, rest) =>
    .malformed (.unknownMark (known ++ mark)) rest.length (known.length + mark.length + 1)

/-- A group mark after its parenthesis and a question mark. -/
def extension : List Char → Except Stop (Token × List Char)
  | ':' :: rest => .ok (.plainStart, rest)
  | '=' :: rest => .ok (.aheadStart true, rest)
  | '!' :: rest => .ok (.aheadStart false, rest)
  | 'P' :: '<' :: rest => namedGroup rest
  | 'P' :: '=' :: rest | '<' :: '=' :: rest | '<' :: '!' :: rest =>
    .error (.limit .unsupported rest.length)
  | 'P' :: rest => .error (unknownMark ['P'] rest)
  | '<' :: rest => .error (unknownMark ['<'] rest)
  | text =>
    .error (if text.head?.any unsupportedMarks.contains then .limit .unsupported text.length
      else unknownMark [] text)

/-- A group mark after its parenthesis. -/
def groupMark : List Char → Except Stop (Token × List Char)
  | '?' :: rest => extension rest
  | rest => .ok (.groupStart, rest)

/-- The token that starts with the character `c`, and the text after it. -/
def next (c : Char) (rest : List Char) : Except Stop (Token × List Char) :=
  match c with
  | '\\' =>
    match rest with
    | [] => .error (.malformed .loneEscape 0 1)
    | d :: rest => escape d rest
  | '[' => set rest
  | '(' => groupMark rest
  | ')' => .ok (.groupEnd, rest)
  | '|' => .ok (.bar, rest)
  | '.' => .ok (.char .withinLine, rest)
  | '^' => .ok (.anchor .textStart, rest)
  | '$' => .ok (.anchor .textEnd, rest)
  | '*' => .ok (repetition 0 none rest)
  | '+' => .ok (repetition 1 none rest)
  | '?' => .ok (repetition 0 (some 1) rest)
  | '{' => braces rest
  | _ => .ok (.char (.single c), rest)

/-- The text up to a backslash that stands alone at its end. -/
def withoutLoneEscape : List Char → List Char
  | '\\' :: c :: rest => '\\' :: c :: withoutLoneEscape rest
  | ['\\'] | [] => []
  | c :: rest => c :: withoutLoneEscape rest

end Token

end ModuleScript.Pattern
