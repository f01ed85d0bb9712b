/-!
# Whole numbers in base ten

Natural and whole numbers in base ten: their digits, written and read, and the signed texts that
denote a number of a bounded range.
-/

set_option autoImplicit false

namespace ServerManagement.Decimal

def digitChar (value : Nat) : Char := Char.ofNat (48 + value % 10)

/-- The decimal digits of a number, most significant first; zero has the one digit `0`. -/
def digits (value : Nat) : List Char :=
  if value < 10 then [digitChar value] else digits (value / 10) ++ [digitChar value]
termination_by value
decreasing_by omega

/-- The number that a row of digits denotes, after `high` has been read. -/
def ofDigitsFrom (high : Nat) : List Char → Nat
  | [] => high
  | digit :: rest => ofDigitsFrom (10 * high + (digit.toNat - 48)) rest

def ofDigits (row : List Char) : Nat := ofDigitsFrom 0 row

/-- A whole number with a minus sign when it is negative. -/
def signedDigits (value : Int) : List Char :=
  if value < 0 then '-' :: digits value.natAbs else digits value.natAbs

/-- Digits filled up with zeros on the left to a least width. -/
def padded (width value : Nat) : List Char :=
  let row := digits value
  List.replicate (width - row.length) '0' ++ row

/-- Why a text does not denote a number of the wanted range. -/
inductive Refusal where
  | empty
  /-- A character is no digit, or a sign stands alone. -/
  | invalidDigit
  | tooLarge
  | tooSmall
deriving DecidableEq, Repr

def Refusal.message : Refusal → String
  | .empty => "cannot parse integer from empty string"
  | .invalidDigit => "invalid digit found in string"
  | .tooLarge => "number too large to fit in target type"
  | .tooSmall => "number too small to fit in target type"

structure Range where
  least : Int
  greatest : Int
deriving DecidableEq, Repr

def Range.holds (range : Range) (value : Int) : Bool :=
  range.least ≤ value && value ≤ range.greatest

def Range.unsigned16 : Range := ⟨0, 65535⟩
def Range.unsigned32 : Range := ⟨0, 4294967295⟩
def Range.unsigned64 : Range := ⟨0, 18446744073709551615⟩
def Range.signed32 : Range := ⟨-2147483648, 2147483647⟩
def Range.signed64 : Range := ⟨-9223372036854775808, 9223372036854775807⟩

/-- The first trouble in a row of digits read from the left: a character that is no digit, or the
digit with which the number leaves the range. -/
def readDigits (range : Range) (negative : Bool) (high : Nat) : List Char → Except Refusal Int
  | [] => .ok (if negative then -(high : Int) else high)
  | digit :: rest =>
    if digit.isDigit then
      let next := 10 * high + (digit.toNat - 48)
      if negative then
        if -(next : Int) < range.least then .error .tooSmall else readDigits range negative next rest
      else
        if range.greatest < (next : Int) then .error .tooLarge else readDigits range negative next rest
    else .error .invalidDigit

/-- Read an optional sign and one or more digits as a number of a range. A minus sign belongs to
ranges with negative numbers only. -/
def readSigned (range : Range) : List Char → Except Refusal Int
  | [] => .error .empty
  | [sign] => if sign == '+' || sign == '-' then .error .invalidDigit
    else readDigits range false 0 [sign]
  | '+' :: row => readDigits range false 0 row
  | '-' :: row => if range.least < 0 then readDigits range true 0 row
    else readDigits range false 0 ('-' :: row)
  | row => readDigits range false 0 row

end ServerManagement.Decimal
