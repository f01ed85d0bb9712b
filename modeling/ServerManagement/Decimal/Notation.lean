import ServerManagement.Decimal.Digits
import ServerManagement.Decimal.Shortest

/-!
# The notation of doubles

How a double is laid out in a text: the shortest digits that read back, positionally for moderate
sizes and with a signed exponent otherwise, and never without a point or an exponent.
-/

set_option autoImplicit false

namespace ServerManagement.Decimal

/-- Exponents of the leading digit that are written positionally lie from here on. -/
def positionalFrom : Int := -5

/-- Exponents of the leading digit that are written positionally lie below this one. -/
def positionalBelow : Int := 16

def Shortest.layout (decimal : Shortest) : List Char :=
  let row := Decimal.digits decimal.digits
  let leading : Int := row.length + decimal.exponent - 1
  if positionalFrom ≤ leading ∧ leading < positionalBelow then
    if 0 ≤ decimal.exponent then
      row ++ List.replicate decimal.exponent.toNat '0' ++ ['.', '0']
    else if 0 ≤ leading then
      row.take (leading + 1).toNat ++ '.' :: row.drop (leading + 1).toNat
    else
      '0' :: '.' :: List.replicate (-leading - 1).toNat '0' ++ row
  else
    let tail := if row.length ≤ 1 then [] else '.' :: row.drop 1
    row.take 1 ++ tail ++ 'e' :: (if leading < 0 then '-' else '+') ::
      Decimal.digits leading.natAbs

def Double.layout (value : Double) : List Char :=
  let magnitude := value.magnitude
  let body := if magnitude.significand = 0 then ['0', '.', '0'] else magnitude.shortest.layout
  if value.negative then '-' :: body else body

end ServerManagement.Decimal
