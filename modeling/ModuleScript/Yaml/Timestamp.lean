import ModuleScript.Data.Value
import ModuleScript.Pattern.Match
import ModuleScript.Yaml.Number

/-!
# Dates and moments of YAML texts

A date is a year of four digits, a month and a day, with hyphens between them. A moment goes on
with a time of day behind a letter T or a gap, and may end with an offset from universal time.
Without a tag only a date with all its digits is taken for one.
-/

namespace ModuleScript.Yaml.Timestamp

open Pattern Node

/-- One of some characters. -/
def oneChar (cs : List Char) : Node := char (.oneOf cs)

/-- A decimal digit. -/
def digit : Node := oneOf [.range '0' '9']

/-- Two digits. -/
def twoDigits : Node := concat [digit, digit]

/-- One digit or two. -/
def upToTwoDigits : Node := concat [digit, opt digit]

/-- A year, and the hyphen behind it. -/
def year : List Node := [group 1 (concat [twoDigits, twoDigits]), oneChar ['-']]

/-- A month and a day with digits of a form. -/
def day (digits : Node) : List Node := [group 2 digits, oneChar ['-'], group 3 digits]

/-- A time of day and an offset, behind the day. -/
def clock : List Node :=
  let gap := oneChar [' ', '\t']
  let offset := concat [group 9 (oneChar ['+', '-']), group 10 upToTwoDigits,
    opt (concat [oneChar [':'], group 11 twoDigits])]
  [alt (oneChar ['T', 't']) (plus gap), group 4 upToTwoDigits, oneChar [':'], group 5 twoDigits,
    oneChar [':'], group 6 twoDigits, opt (concat [oneChar ['.'], group 7 (star digit)]),
    opt (concat [star gap, group 8 (alt (oneChar ['Z']) offset)])]

/-- The whole text, perhaps with a line feed behind it. -/
def whole (nodes : List Node) : Node := concat ([anchor .textStart] ++ nodes ++ [anchor .textEnd])

/-- A text that is taken for a date or moment without a tag. -/
def plainForm : Node :=
  whole [alt (concat (year ++ day twoDigits)) (concat (year ++ day upToTwoDigits ++ clock))]

/-- A text that is a date or moment by its tag. -/
def taggedForm : Node := whole (year ++ day upToTwoDigits ++ [opt (concat clock)])

/-- The number that a group of a match denotes, if it took part. -/
def part? (m : Match) (index : Nat) : Option Nat :=
  (m.group? index).map fun digits ↦ numberOf 10 digits.toList

/-- The first six digits of a fraction of a second, as millionths. -/
def micros (m : Match) : Nat :=
  let digits := ((m.group? 7).getD "").toList.take 6
  numberOf 10 (digits ++ List.replicate (6 - digits.length) '0')

/-- The offset in seconds, if there is one. -/
def offset? (m : Match) : Option Int :=
  match m.group? 9, m.group? 8 with
  | some sign, _ =>
    let minutes : Int := ((part? m 10).getD 0 * 60 + (part? m 11).getD 0 : Nat)
    some (if sign == "-" then -(minutes * 60) else minutes * 60)
  | none, some _ => some 0
  | none, none => none

/-- The date or moment of a text. What is wrong with an offset is found first. -/
def read (text : String) : Except Fault Value :=
  match taggedForm.matchStart? text.toList with
  | none => .error .noDate
  | some m => build m |>.mapError .calendar
where
  /-- The date or moment of the parts of a text. -/
  build (m : Match) : Except Calendar.Fault Value := do
    let part (index : Nat) := (part? m index).getD 0
    match part? m 4 with
    | none => return .date (← Calendar.Date.ofParts? (part 1) (part 2) (part 3))
    | some hour =>
      let offset ← (offset? m).mapM Calendar.Moment.checkOffset
      let date ← Calendar.Date.ofParts? (part 1) (part 2) (part 3)
      let clock ← Calendar.Clock.ofParts? hour (part 5) (part 6) (micros m)
      return .moment { date, clock, offset }

end ModuleScript.Yaml.Timestamp
