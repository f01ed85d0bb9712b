import ServerManagement.Decimal.Double

/-!
# Shortest decimals

The fewest decimal digits that read back as a given double, and of those the nearest to it. The
search tries grids of one digit, two digits and so on; on each it tests the two neighbours of the
value against the interval of numbers that round to the double.
-/

set_option autoImplicit false

namespace ServerManagement.Decimal

/-- A decimal `digits · 10 ^ exponent`. -/
structure Shortest where
  digits : Nat
  exponent : Int
deriving DecidableEq, Repr

/-- Compare `digits · 10 ^ exponent` with `significand · 2 ^ scale`. -/
def compareDecimal (digits : Nat) (exponent : Int) (significand : Nat) (scale : Int) : Ordering :=
  compare (digits * Nat.pow 10 exponent.toNat * Nat.pow 2 (-scale).toNat)
    (significand * Nat.pow 2 scale.toNat * Nat.pow 10 (-exponent).toNat)

/-- The decimal lies in the interval of numbers that round to the double. The ends belong to the
interval when the significand is even. -/
def Scaled.readsBack (value : Scaled) (digits : Nat) (exponent : Int) : Bool :=
  let even := value.significand % 2 == 0
  let below := 4 * value.significand - (if value.narrowBelow then 1 else 2)
  let above := 4 * value.significand + 2
  let low := compareDecimal digits exponent below (value.exponent - 2)
  let high := compareDecimal digits exponent above (value.exponent - 2)
  (low == .gt || (even && low == .eq)) && (high == .lt || (even && high == .eq))

def Scaled.scale (value : Scaled) : Int :=
  let estimate := ((Nat.log2 value.significand : Int) + value.exponent) * 30103 / 100000
  let above (power : Int) : Bool :=
    compareDecimal 1 power value.significand value.exponent == .gt
  if above (estimate - 1) then estimate - 1
  else if above estimate then estimate
  else if above (estimate + 1) then estimate + 1
  else estimate + 2

/-- The neighbour on the grid `10 ^ power` that reads back; of two the nearer, of two equally near
the even one. -/
def Scaled.onGrid? (value : Scaled) (power : Int) : Option Shortest :=
  let numerator := value.significand * Nat.pow 2 value.exponent.toNat * Nat.pow 10 (-power).toNat
  let denominator := Nat.pow 2 (-value.exponent).toNat * Nat.pow 10 power.toNat
  let floor := numerator / denominator
  match value.readsBack floor power, value.readsBack (floor + 1) power with
  | true, true => some ⟨roundHalfEven numerator denominator, power⟩
  | true, false => some ⟨floor, power⟩
  | false, true => some ⟨floor + 1, power⟩
  | false, false => none

/-- The value written with as many digits as it has; the search never comes to this. -/
def Scaled.exact (value : Scaled) : Shortest :=
  ⟨value.significand * Nat.pow 2 value.exponent.toNat * Nat.pow 5 (-value.exponent).toNat,
    if value.exponent < 0 then value.exponent else 0⟩

/-- Move trailing zeros of the digits into the exponent; `fuel` bounds their number. -/
def Shortest.stripped (decimal : Shortest) : Nat → Shortest
  | 0 => decimal
  | fuel + 1 =>
    if decimal.digits ≠ 0 ∧ decimal.digits % 10 = 0 then
      Shortest.stripped ⟨decimal.digits / 10, decimal.exponent + 1⟩ fuel
    else decimal

def Scaled.shortest (value : Scaled) : Shortest :=
  let scale := value.scale
  let found := (List.range 17).findSome? fun (count : Nat) => value.onGrid? (scale - 1 - count)
  (found.getD value.exact).stripped 20

end ServerManagement.Decimal
