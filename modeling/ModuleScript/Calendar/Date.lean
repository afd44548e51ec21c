/-!
# Dates

A date is a year, a month and a day of the Gregorian calendar, which is taken to hold for all
years from 1 to 9999. A date that does not exist is refused for the first of its parts that is
out of range. Dates are written with four, two and two digits, and in a message as a call.
-/

namespace ModuleScript.Calendar

/-- Why a date or a time of day does not exist. -/
inductive Fault where
  | year (given : Nat)
  | month
  | day
  | hour
  | minute
  | second
  /-- An offset, in seconds, of a day or more. -/
  | offset (seconds : Int)
  deriving DecidableEq, Repr

/-- The decimal digits of a number, with zeros before them up to a width. -/
def padded (width n : Nat) : String :=
  let digits := toString n
  "".pushn '0' (width - digits.length) ++ digits

/-- A date. -/
structure Date where
  year : Nat
  month : Nat
  day : Nat
  deriving DecidableEq, Repr

namespace Date

/-- Whether February has 29 days. -/
def isLeap (year : Nat) : Bool := year % 4 == 0 && (year % 100 != 0 || year % 400 == 0)

/-- The number of days of a month. -/
def daysIn (year month : Nat) : Nat :=
  if month = 2 then if isLeap year then 29 else 28
  else if [4, 6, 9, 11].contains month then 30
  else 31

/-- The date with these parts, if there is one. -/
def ofParts? (year month day : Nat) : Except Fault Date := do
  if year < 1 || 9999 < year then throw (.year year)
  if month < 1 || 12 < month then throw .month
  if day < 1 || daysIn year month < day then throw .day
  return { year, month, day }

/-- The number of days before the first day of a year. -/
def daysBeforeYear (year : Nat) : Nat :=
  let past := year - 1
  past * 365 + past / 4 - past / 100 + past / 400

/-- The number of days of the months before this one. -/
def daysBeforeMonth (year month : Nat) : Nat :=
  ((List.range month).drop 1).foldl (fun n m ↦ n + daysIn year m) 0

/-- The number of the day, counted from the first day of the year 1. -/
def number (d : Date) : Nat := daysBeforeYear d.year + daysBeforeMonth d.year d.month + d.day

/-- The written date. -/
def text (d : Date) : String := s!"{padded 4 d.year}-{padded 2 d.month}-{padded 2 d.day}"

/-- The form in a message. -/
def quoted (d : Date) : String := s!"datetime.date({d.year}, {d.month}, {d.day})"

/-- A date that is accepted has a month from 1 to 12 and a day of that month. -/
theorem bounds_of_ofParts? {year month day : Nat} {d : Date}
    (h : ofParts? year month day = .ok d) :
    (1 ≤ d.month ∧ d.month ≤ 12) ∧ 1 ≤ d.day ∧ d.day ≤ daysIn d.year d.month := by
  simp only [ofParts?, bind, Except.bind, pure, Except.pure, throw, throwThe,
    MonadExceptOf.throw] at h
  split at h
  · simp at h
  split at h
  · simp at h
  split at h
  · simp at h
  cases h
  simp_all
  omega

end Date

end ModuleScript.Calendar
