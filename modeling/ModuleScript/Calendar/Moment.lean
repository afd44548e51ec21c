import ModuleScript.Calendar.Date

/-!
# Moments

A moment is a date and a time of day, which may come with its offset from universal time. Two
moments with an offset are the same if they denote the same instant; a moment with an offset is
never the same as one without.
-/

namespace ModuleScript.Calendar

/-- A length of time in the form of a message: days, and seconds within a day, unless zero. -/
def quotedSpan (seconds : Int) : String :=
  let days := seconds.fdiv 86400
  let rest := seconds.fmod 86400
  let parts :=
    (if days = 0 then [] else [s!"days={days}"]) ++
      if rest = 0 then [] else [s!"seconds={rest}"]
  let inner := if parts.isEmpty then "0" else ", ".intercalate parts
  s!"datetime.timedelta({inner})"

/-- The wording of a refusal. -/
def Fault.message : Fault → String
  | .year given => s!"year {given} is out of range"
  | .month => "month must be in 1..12"
  | .day => "day is out of range for month"
  | .hour => "hour must be in 0..23"
  | .minute => "minute must be in 0..59"
  | .second => "second must be in 0..59"
  | .offset seconds => "offset must be a timedelta strictly between -timedelta(hours=24) and " ++
      s!"timedelta(hours=24), not {quotedSpan seconds}."

/-- A time of day. -/
structure Clock where
  hour : Nat
  minute : Nat
  second : Nat
  /-- Millionths of a second. -/
  micros : Nat := 0
  deriving DecidableEq, Repr

/-- The time of day with these parts, if there is one. -/
def Clock.ofParts? (hour minute second micros : Nat) : Except Fault Clock := do
  if 23 < hour then throw .hour
  if 59 < minute then throw .minute
  if 59 < second then throw .second
  return { hour, minute, second, micros }

/-- Millionths of a second since midnight. -/
def Clock.sinceMidnight (c : Clock) : Nat :=
  ((c.hour * 60 + c.minute) * 60 + c.second) * 1000000 + c.micros

/-- A date, a time of day, and the seconds by which it is ahead of universal time, if known. -/
structure Moment where
  date : Date
  clock : Clock
  offset : Option Int := none
  deriving DecidableEq, Repr

namespace Moment

/-- An offset of less than a day. -/
def checkOffset (seconds : Int) : Except Fault Int :=
  if 86400 ≤ seconds.natAbs then .error (.offset seconds) else .ok seconds

/-- The instant of a moment with an offset, in millionths of a second. -/
def instant? (m : Moment) : Option Int :=
  m.offset.map fun seconds ↦
    (m.date.number : Int) * 86400000000 + m.clock.sinceMidnight - seconds * 1000000

/-- Whether two moments are the same. -/
def same (m n : Moment) : Bool :=
  match m.instant?, n.instant? with
  | some a, some b => a == b
  | none, none => m.date == n.date && m.clock == n.clock
  | _, _ => false

/-- The written offset, in hours and minutes. -/
def offsetText (seconds : Int) : String :=
  let minutes := seconds.natAbs / 60
  (if seconds < 0 then "-" else "+") ++ s!"{padded 2 (minutes / 60)}:{padded 2 (minutes % 60)}"

/-- The written moment; a fraction of a second has six digits. -/
def text (m : Moment) : String :=
  let c := m.clock
  let fraction := if c.micros = 0 then "" else s!".{padded 6 c.micros}"
  s!"{m.date.text} {padded 2 c.hour}:{padded 2 c.minute}:{padded 2 c.second}{fraction}" ++
    (m.offset.elim "" offsetText)

/-- The form of an offset in a message. -/
def quotedOffset (seconds : Int) : String :=
  if seconds = 0 then "datetime.timezone.utc" else s!"datetime.timezone({quotedSpan seconds})"

/-- The form in a message, without the second and its fraction if both are zero. -/
def quoted (m : Moment) : String :=
  let c := m.clock
  let fine :=
    if c.micros != 0 then [c.second, c.micros] else if c.second != 0 then [c.second] else []
  let parts := [m.date.year, m.date.month, m.date.day, c.hour, c.minute] ++ fine
  let zone := m.offset.elim [] fun seconds ↦ [s!"tzinfo={quotedOffset seconds}"]
  let inner := ", ".intercalate (parts.map toString ++ zone)
  s!"datetime.datetime({inner})"

end Moment

end ModuleScript.Calendar
