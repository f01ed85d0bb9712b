/-!
# Calendar dates

Dates of the calendar with leap years extended over all years, and their numbering by days from
the first of January 1970.
-/

set_option autoImplicit false

namespace ServerManagement.Calendar

/-- A date; months and days count from one. -/
structure Date where
  year : Int
  month : Nat
  day : Nat
deriving DecidableEq, Repr

/-- Every fourth year is a leap year, except the hundredth ones that are no four-hundredth ones. -/
def isLeap (year : Int) : Bool :=
  year % 4 == 0 && (year % 100 != 0 || year % 400 == 0)

def monthLength (year : Int) (month : Nat) : Nat :=
  if month = 2 then (if isLeap year then 29 else 28)
  else if month = 4 ∨ month = 6 ∨ month = 9 ∨ month = 11 then 30
  else 31

def Date.isValid (date : Date) : Bool :=
  1 ≤ date.month && date.month ≤ 12 && 1 ≤ date.day &&
    date.day ≤ monthLength date.year date.month

/-- Days of the four hundred years after which the calendar repeats. -/
def daysOfEra : Int := 146097

/-- Days from the first of March of the year nought to the first of January 1970. -/
def epochOffset : Int := 719468

/-- The number of a date. Years are counted from March, so that a leap day is the last day. -/
def Date.toDays (date : Date) : Int :=
  let year : Int := if date.month ≤ 2 then date.year - 1 else date.year
  let era := Int.fdiv year 400
  let yearOfEra := year - era * 400
  let month : Int := if date.month ≤ 2 then (date.month : Int) + 9 else (date.month : Int) - 3
  let dayOfYear := (153 * month + 2) / 5 + (date.day : Int) - 1
  let dayOfEra := yearOfEra * 365 + yearOfEra / 4 - yearOfEra / 100 + dayOfYear
  era * daysOfEra + dayOfEra - epochOffset

def Date.ofDays (days : Int) : Date :=
  let shifted := days + epochOffset
  let era := Int.fdiv shifted daysOfEra
  let dayOfEra := shifted - era * daysOfEra
  let yearOfEra :=
    (dayOfEra - dayOfEra / 1460 + dayOfEra / 36524 - dayOfEra / 146096) / 365
  let dayOfYear := dayOfEra - (365 * yearOfEra + yearOfEra / 4 - yearOfEra / 100)
  let month := (5 * dayOfYear + 2) / 153
  let day := dayOfYear - (153 * month + 2) / 5 + 1
  let year := yearOfEra + era * 400
  if month < 10 then ⟨year, (month + 3).toNat, day.toNat⟩
  else ⟨year + 1, (month - 9).toNat, day.toNat⟩

/-- The day of the week, counted from Sunday as nought. -/
def weekday (days : Int) : Nat := (Int.fmod (days + 4) 7).toNat

end ServerManagement.Calendar
