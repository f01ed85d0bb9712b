import ServerManagement.Calendar.Moment
import ServerManagement.Decimal.Digits
import ServerManagement.Text.Blank

/-!
# Expiry texts

The text in which the server writes when a ban ends: weekday, month, day in two columns, time and
year, as in `Mon Jan  2 15:04:05 2006`. Reading is more lenient than writing: any letter case, any
blanks between the parts, and shorter numbers.
-/

set_option autoImplicit false

namespace ServerManagement.Calendar

/-- Short names of the days of the week, from Sunday on. -/
def weekdayNames : List String := ["Sun", "Mon", "Tue", "Wed", "Thu", "Fri", "Sat"]

def monthNames : List String :=
  ["Jan", "Feb", "Mar", "Apr", "May", "Jun", "Jul", "Aug", "Sep", "Oct", "Nov", "Dec"]

def nameAt (names : List String) (index : Nat) : List Char := (names.getD index "").toList

/-- Years from nought to 9999 have four digits, all others a sign and at least four. -/
def yearText (year : Int) : List Char :=
  if year < 0 then '-' :: Decimal.padded 4 year.natAbs
  else if year < 10000 then Decimal.padded 4 year.natAbs
  else '+' :: Decimal.padded 4 year.natAbs

/-- A day in two columns, filled up with a blank. -/
def dayText (day : Nat) : List Char :=
  let row := Decimal.digits day
  List.replicate (2 - row.length) ' ' ++ row

/-- The second that is shown. For a leap second it is the next one, which at the end of a minute is
the sixtieth. -/
def Moment.shownSecond (moment : Moment) : Nat :=
  moment.secondOfDay % 60 + (if moment.nanos < nanosOfSecond then 0 else 1)

/-- Hours, minutes and seconds. -/
def Moment.timeText (moment : Moment) : List Char :=
  let second := moment.secondOfDay
  Decimal.padded 2 (second / 3600) ++ ':' :: Decimal.padded 2 (second / 60 % 60) ++
    ':' :: Decimal.padded 2 moment.shownSecond

def Moment.expiryChars (moment : Moment) : List Char :=
  let date := moment.date
  nameAt weekdayNames (weekday moment.days) ++ ' ' :: nameAt monthNames (date.month - 1) ++
    ' ' :: dayText date.day ++ ' ' :: moment.timeText ++ ' ' :: yearText date.year

def Moment.expiryText (moment : Moment) : String := String.ofList moment.expiryChars

/-! ## Reading -/

def small (c : Char) : Char := if 'A' ≤ c ∧ c ≤ 'Z' then Char.ofNat (c.toNat + 32) else c

/-- Take one of the names from the start of a text, in any letter case. -/
def takeName? (names : List String) (text : List Char) : Option (Nat × List Char) :=
  match names.findIdx? fun name => name.toList.map small == (text.take 3).map small with
  | none => none
  | some index => some (index, text.drop 3)

/-- Take a number of one digit up to a greatest count. -/
def takeNumber? (most : Nat) (text : List Char) : Option (Nat × List Char) :=
  let row := (text.take most).takeWhile Char.isDigit
  if row = [] then none else some (Decimal.ofDigits row, text.drop row.length)

def skipBlanks (text : List Char) : List Char := text.dropWhile Text.isBlank

/-- Take a number of at most two digits, after blanks. -/
def takeShort? (text : List Char) : Option (Nat × List Char) := takeNumber? 2 (skipBlanks text)

def takeColon? : List Char → Option (List Char)
  | ':' :: rest => some rest
  | _ => none

/-- Take a year, after blanks: four digits at most, or a sign and any number of digits. -/
def takeYear? (text : List Char) : Option (Int × List Char) :=
  match skipBlanks text with
  | '-' :: rest => (takeNumber? rest.length rest).map fun (year, rest) => (-(year : Int), rest)
  | '+' :: rest => (takeNumber? rest.length rest).map fun (year, rest) => ((year : Int), rest)
  | rest => (takeNumber? 4 rest).map fun (year, rest) => ((year : Int), rest)

structure ExpiryParts where
  weekday : Nat
  month : Nat
  day : Nat
  hour : Nat
  minute : Nat
  second : Nat
  year : Int
deriving DecidableEq, Repr

/-- Take an expiry text apart; nothing may be left over. -/
def ExpiryParts.read? (text : List Char) : Option ExpiryParts := do
  let (weekday, text) ← takeName? weekdayNames text
  let (month, text) ← takeName? monthNames (skipBlanks text)
  let (day, text) ← takeShort? text
  let (hour, text) ← takeShort? text
  let text ← takeColon? text
  let (minute, text) ← takeShort? text
  let text ← takeColon? text
  let (second, text) ← takeShort? text
  let (year, text) ← takeYear? text
  if text = [] then some ⟨weekday, month + 1, day, hour, minute, second, year⟩ else none

/-- The moment of the parts, if there is such a day, the weekday is right and the time exists. The
sixtieth second is a leap second. -/
def ExpiryParts.moment? (parts : ExpiryParts) : Option Moment :=
  let date : Date := ⟨parts.year, parts.month, parts.day⟩
  let days := date.toDays
  if firstYear ≤ parts.year ∧ parts.year ≤ lastYear ∧ date.isValid ∧
      Calendar.weekday days = parts.weekday ∧ parts.hour < 24 ∧ parts.minute < 60 ∧ parts.second ≤ 60 then
    let shown := if parts.second = 60 then 59 else parts.second
    let seconds := days * secondsOfDay + (parts.hour * 3600 + parts.minute * 60 + shown : Nat)
    some ⟨seconds, if parts.second = 60 then nanosOfSecond else 0⟩
  else none

/-- The moment that an expiry text denotes; blanks around the text do not count. -/
def Moment.ofExpiryChars? (text : List Char) : Option Moment :=
  (ExpiryParts.read? (Text.trim text)).bind ExpiryParts.moment?

def Moment.ofExpiryText? (text : String) : Option Moment := ofExpiryChars? text.toList

end ServerManagement.Calendar
