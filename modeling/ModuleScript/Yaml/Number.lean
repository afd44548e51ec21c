import ModuleScript.Data.Value
import ModuleScript.Decimal.Arithmetic
import ModuleScript.Decimal.DigitLimit
import ModuleScript.Text.Blank
import ModuleScript.Text.Hex
import ModuleScript.Text.Lines
import ModuleScript.Text.Lowercase
import ModuleScript.Yaml.Fault

/-!
# Numbers of YAML texts

Low lines within a number do not count. Whole numbers are decimal, or start with a zero and are
binary, octal or hexadecimal; floating-point numbers may be infinite or none at all. Parts
between colons count by powers of sixty. Digits and blanks of any script are understood.
-/

namespace ModuleScript.Yaml

/-- The character that stands for others of its kind: a space for blanks, and a digit of ASCII for
the same digit of other scripts. -/
def plainForm (c : Char) : Char :=
  if c.toNat < 127 then c
  else if Text.isBlank c then ' '
  else match Text.digitTable.ranges.find? fun (first, last) ↦ first ≤ c.toNat && c.toNat ≤ last with
    | some (first, _) => Char.ofNat (48 + (c.toNat - first) % 10)
    | none => c

/-- A text in the characters that stand for others. -/
def plainForms (cs : List Char) : List Char :=
  if cs.all (·.toNat < 128) then cs else cs.map plainForm

/-- Blanks around a number. -/
def isPadding (c : Char) : Bool := c == ' ' || ('\t' ≤ c && c ≤ '\r')

/-- Take a sign off: whether it is a minus, and the rest. -/
def signed : List Char → Bool × List Char
  | '-' :: rest => (true, rest)
  | '+' :: rest => (false, rest)
  | cs => (false, cs)

/-- The value of a digit of a base. -/
def digit? (base : Nat) (c : Char) : Option Nat := (Text.hexValue? c).filter (· < base)

/-- The number that digits denote. -/
def numberOf (base : Nat) (digits : List Char) : Nat :=
  digits.foldl (fun n c ↦ n * base + ((digit? base c).getD 0)) 0

/-- Take off the letter that marks a base, behind a zero. -/
def dropBaseMark (base : Nat) (cs : List Char) : List Char :=
  match cs with
  | '0' :: letter :: rest =>
    if (base = 2 && (letter == 'b' || letter == 'B')) ||
      (base = 8 && (letter == 'o' || letter == 'O')) ||
      (base = 16 && (letter == 'x' || letter == 'X')) then rest
    else cs
  | _ => cs

/-- The whole number of a base that a text denotes. -/
def wholeNumber (base : Nat) (text : List Char) : Except Fault Int := do
  let (negative, cs) := signed ((plainForms text).dropWhile isPadding)
  let cs := dropBaseMark base cs
  let digits := cs.takeWhile fun c ↦ (digit? base c).isSome
  if base = 10 && Decimal.digitLimit < digits.length then
    throw (.longNumber (.read digits.length))
  if digits.isEmpty || !(cs.drop digits.length).all isPadding then
    throw (.noWholeNumber base (String.ofList text))
  let n : Int := numberOf base digits
  return if negative then -n else n

/-- The parts of a number between colons. -/
def partsOf (cs : List Char) : List (List Char) := Text.cutAt ':' cs

/-- Take the sign off a number without its low lines. There has to be something. -/
def signOff (text : List Char) : Except Fault (Bool × List Char) :=
  match text.filter (· != '_') with
  | [] => .error .emptyNumber
  | cs => .ok (signed cs)

/-- The magnitude of a whole number behind its sign. -/
def magnitude : List Char → Except Fault Int
  | [] => .error .emptyNumber
  | ['0'] => .ok 0
  | '0' :: 'b' :: rest => wholeNumber 2 rest
  | '0' :: 'x' :: rest => wholeNumber 16 rest
  | cs@('0' :: _) => wholeNumber 8 cs
  | cs =>
    if cs.contains ':' then do
      return (← (partsOf cs).mapM (wholeNumber 10)).foldl (fun n part ↦ n * 60 + part) 0
    else wholeNumber 10 cs

/-- The value of a whole number. -/
def intOf (text : String) : Except Fault Value := do
  let (negative, cs) ← signOff text.toList
  let n ← magnitude cs
  return .int (if negative then -n else n)

/-- Digits with a point, and an exponent behind a letter. -/
def decimal? (negative : Bool) (cs : List Char) : Option Decimal.Binary64 := do
  let whole := cs.takeWhile Text.isAsciiDigit
  let afterWhole := cs.drop whole.length
  let (fraction, rest) := match afterWhole with
    | '.' :: after => after.span Text.isAsciiDigit
    | _ => ([], afterWhole)
  if whole.isEmpty && fraction.isEmpty then none
  let amount := numberOf 10 (whole ++ fraction)
  match rest with
  | [] => return .ofDecimal negative amount (-fraction.length)
  | letter :: power =>
    let (down, digits) := signed power
    if letter != 'e' || digits.isEmpty || !digits.all Text.isAsciiDigit then none
    let size : Int := numberOf 10 digits
    return .ofDecimal negative amount ((if down then -size else size) - fraction.length)

/-- The floating-point number that a text in lower case denotes. -/
def floatNumber (text : List Char) : Except Fault Decimal.Binary64 :=
  let padded := (plainForms text).dropWhile isPadding
  let (negative, cs) := signed (Text.trimEndChars isPadding padded)
  let found :=
    if cs == "inf".toList || cs == "infinity".toList then
      some (Decimal.Binary64.infinite negative)
    else if cs == "nan".toList then some .nan
    else decimal? negative cs
  match found with
  | some x => .ok x
  | none => .error (.noNumber (String.ofList text))

/-- The sum of parts by powers of sixty, the last part first. -/
def sumOfParts (scale : Nat) (sum : Decimal.Binary64) :
    List Decimal.Binary64 → Except Fault Decimal.Binary64
  | [] => .ok sum
  | part :: rest =>
    match Decimal.Binary64.ofNat? scale with
    | some factor => sumOfParts (scale * 60) (sum.add (part.mul factor)) rest
    | none => .error .largeNumber

/-- The value of a floating-point number. -/
def floatOf (text : String) : Except Fault Value := do
  let (negative, cs) ← signOff (Text.toLower text).toList
  let x ←
    if cs == ".inf".toList then pure (Decimal.Binary64.infinite false)
    else if cs == ".nan".toList then pure .nan
    else if cs.contains ':' then do
      sumOfParts 1 .zero (← (partsOf cs).mapM floatNumber).reverse
    else floatNumber cs
  return .float (if negative then x.negate else x)

end ModuleScript.Yaml
