/-!
# Doubles

Double-precision numbers as their sixty-four bits, their products and quotients, and the doubles
that decimals are read as. All arithmetic is on natural numbers, so nothing here depends on a
machine's floating point.
-/

set_option autoImplicit false

namespace ServerManagement.Decimal

/-- A double-precision number, given by its bits. -/
structure Double where
  bits : UInt64
deriving DecidableEq, Repr, Inhabited

/-- Whether the sign bit is set; the negative zero counts as negative. -/
def Double.negative (value : Double) : Bool := value.bits >>> 63 == 1

def Double.exponentBits (value : Double) : Nat := ((value.bits >>> 52) &&& 0x7FF).toNat

def Double.fractionBits (value : Double) : Nat := (value.bits &&& 0xFFFFFFFFFFFFF).toNat

/-- A non-negative binary number `significand · 2 ^ exponent`. -/
structure Scaled where
  significand : Nat
  exponent : Int
  /-- The neighbour below is only half as far away as the neighbour above. -/
  narrowBelow : Bool
deriving DecidableEq, Repr

def Double.magnitude (value : Double) : Scaled :=
  if value.exponentBits == 0 then ⟨value.fractionBits, -1074, false⟩
  else ⟨Nat.pow 2 52 + value.fractionBits, (value.exponentBits : Int) - 1075,
    value.fractionBits == 0 && value.exponentBits > 1⟩

/-- A quotient rounded to the nearest natural number, a half to the even neighbour. -/
def roundHalfEven (numerator denominator : Nat) : Nat :=
  let quotient := numerator / denominator
  let doubled := 2 * (numerator % denominator)
  if doubled < denominator then quotient
  else if denominator < doubled then quotient + 1
  else quotient + quotient % 2

/-- The bits of the double nearest to a positive quotient, counting on past the greatest finite
double as if there were more exponents. -/
def nearestBits (numerator denominator : Nat) : Nat :=
  let estimate : Int := (Nat.log2 numerator : Int) - (Nat.log2 denominator : Int)
  let atScale (scale : Int) : Nat × Nat :=
    (numerator * Nat.pow 2 (-scale).toNat, denominator * Nat.pow 2 scale.toNat)
  let low := max (estimate - 53) (-1074)
  let (top, bottom) := atScale low
  let scale := if top / bottom < Nat.pow 2 53 then low else low + 1
  let (top, bottom) := atScale scale
  let significand := roundHalfEven top bottom
  if significand < Nat.pow 2 52 then significand
  else (scale + 1075).toNat * Nat.pow 2 52 + (significand - Nat.pow 2 52)

/-- The least bit pattern that is not finite. -/
def infinityBits : Nat := 0x7FF * Nat.pow 2 52

/-- The magnitude with the bits as a quotient. -/
def quotientOf (bits : Nat) : Nat × Nat :=
  let value := Double.magnitude ⟨UInt64.ofNat bits⟩
  (value.significand * Nat.pow 2 value.exponent.toNat, Nat.pow 2 (-value.exponent).toNat)

def productBits (left right : Nat) : Nat :=
  let (top, bottom) := quotientOf left
  let (otherTop, otherBottom) := quotientOf right
  nearestBits (top * otherTop) (bottom * otherBottom)

def quotientBits (left right : Nat) : Nat :=
  let (top, bottom) := quotientOf left
  let (otherTop, otherBottom) := quotientOf right
  nearestBits (top * otherBottom) (bottom * otherTop)

/-- The greatest power of ten that is finite. -/
def greatestPower : Nat := 308

def powerBits (exponent : Nat) : Nat := nearestBits (Nat.pow 10 exponent) 1

/-- Divide by the greatest power of ten so many times, as long as anything is left. -/
def shrink (bits : Nat) : Nat → Nat
  | 0 => bits
  | count + 1 => if bits = 0 then 0 else shrink (quotientBits bits (powerBits greatestPower)) count

/-- A double near `significand · 10 ^ exponent` with a sign; none when it would be infinite. The
significand, the power of ten and their product or quotient are rounded one after another, so that
it is not always the nearest one. -/
def Double.ofDecimal? (negative : Bool) (significand : Nat) (exponent : Int) : Option Double :=
  let start := nearestBits significand 1
  let signed (bits : Nat) : Double :=
    ⟨UInt64.ofNat ((if negative then Nat.pow 2 63 else 0) + bits)⟩
  let power := exponent.natAbs
  if 0 ≤ exponent then
    if power ≤ greatestPower then
      let bits := productBits start (powerBits power)
      if infinityBits ≤ bits then none else some (signed bits)
    else if start = 0 then some (signed 0)
    else none
  else
    let count := (power - 1) / greatestPower
    some (signed (quotientBits (shrink start count) (powerBits (power - greatestPower * count))))

end ServerManagement.Decimal
