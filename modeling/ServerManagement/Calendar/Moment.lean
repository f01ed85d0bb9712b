import ServerManagement.Calendar.Date

/-!
# Moments

Points in time in universal time, to the nanosecond. A leap second is a second whose fraction has
run past its end; as a rule it is the last one before a full minute.
-/

set_option autoImplicit false

namespace ServerManagement.Calendar

/-- A point in time: seconds since the start of 1970 and nanoseconds. From a thousand million
nanoseconds on it lies in a leap second. -/
structure Moment where
  seconds : Int
  nanos : Nat
deriving DecidableEq, Repr

def secondsOfDay : Int := 86400

def nanosOfSecond : Nat := 1000000000

def firstYear : Int := -262143

def lastYear : Int := 262142

def Moment.days (moment : Moment) : Int := Int.fdiv moment.seconds secondsOfDay

def Moment.secondOfDay (moment : Moment) : Nat := (Int.fmod moment.seconds secondsOfDay).toNat

def Moment.date (moment : Moment) : Date := .ofDays moment.days

/-- Any second can be a leap second. -/
def Moment.isValid (moment : Moment) : Bool :=
  let year := moment.date.year
  firstYear ≤ year && year ≤ lastYear && moment.nanos < 2 * nanosOfSecond

/-- The moment does not lie in a leap second, except at the end of a minute. -/
def Moment.isRegular (moment : Moment) : Bool :=
  moment.nanos < nanosOfSecond || moment.secondOfDay % 60 == 59

/-- A regular moment of seconds and nanoseconds, if there is one. -/
def Moment.create? (seconds : Int) (nanos : Nat) : Option Moment :=
  let moment : Moment := ⟨seconds, nanos⟩
  if moment.isValid && moment.isRegular then some moment else none

def Moment.isBefore (left right : Moment) : Bool :=
  left.seconds < right.seconds || (left.seconds == right.seconds && left.nanos < right.nanos)

end ServerManagement.Calendar
