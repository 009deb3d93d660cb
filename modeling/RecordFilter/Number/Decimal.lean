import RecordFilter.Number.Double

/-!
# Decimal approximations

Numbers are compared as decimals of at most 96 bits and 28 places.  A double is brought into that
form by trading its powers of two for powers of ten, and is then cut to the digits that a double
can carry.  Both steps may lose the last digits, so doubles that print differently can agree as
decimals, and magnitudes from `2 ^ 96` on have no decimal at all.
-/

namespace RecordFilter

/-- A magnitude `coefficient · 10 ^ exponent`. -/
structure Decimal where
  coefficient : Nat
  exponent : Int
deriving DecidableEq

namespace Decimal

def value (d : Decimal) : Rat :=
  d.coefficient * 10 ^ d.exponent

/-- Two to the 96th power, which bounds the coefficients. -/
def limit : Nat := 0x1000000000000000000000000

/-!
# Trading twos for tens

A factor of one half is removed from an even coefficient, or is written as five tenths; when
five times the coefficient no longer fits, the last bit is lost.  A factor of two doubles the
coefficient of a tenth; when that does not fit, a fifth is cut from the coefficient instead.
-/

/-- The first argument counts the halves that are still to be removed. -/
def removeHalves : Nat → Decimal → Decimal
  | 0, d => d
  | halves + 1, ⟨m, e⟩ =>
      if m % 2 = 0 then removeHalves halves ⟨m / 2, e + 1⟩
      else if 5 * m < limit then removeHalves halves ⟨5 * m, e⟩
      else removeHalves halves ⟨m / 2, e + 1⟩

/-- The first argument counts the factors of two that are still to be absorbed. -/
def absorbTwos : Nat → Decimal → Option Decimal
  | 0, d => some d
  | twos + 1, ⟨m, e⟩ =>
      if m < limit / 2 then absorbTwos twos ⟨2 * m, e - 1⟩
      else if 2 * e > twos + 1 then none
      else absorbTwos twos ⟨m / 5, e⟩

/-- The first argument counts the factors of ten that the coefficient has to take in. -/
def absorbTens : Nat → Nat → Option Nat
  | 0, m => some m
  | tens + 1, m => if 10 * m < limit then absorbTens tens (10 * m) else none

/-!
# Cutting digits

Digits past the 28th place go first, then those past the precision of a double.  Each cut rounds
a half upwards; a coefficient that vanishes stays zero.
-/

def cutPlaces : Nat → Decimal → Decimal
  | 0, d => d
  | places + 1, ⟨m, e⟩ =>
      if m / 10 = 0 then ⟨0, 0⟩
      else cutPlaces places ⟨if 5 ≤ m % 10 then m / 10 + 1 else m / 10, e + 1⟩

def cutPrecision : Nat → Decimal → Decimal
  | 0, d => d
  | places + 1, ⟨m, e⟩ =>
      if m < Binary.leastNormal then ⟨m, e⟩
      else cutPrecision places ⟨if 5 ≤ m % 10 then m / 10 + 1 else m / 10, e + 1⟩

def settle (d : Decimal) : Option Decimal :=
  if 0 < d.exponent then
    (absorbTens d.exponent.toNat d.coefficient).map (⟨·, 0⟩)
  else
    let short := cutPlaces (-28 - d.exponent).toNat d
    some (cutPrecision (-short.exponent).toNat short)

def ofBinary? (b : Binary) : Option Decimal :=
  if b.mantissa = 0 then some ⟨0, 0⟩
  else if b.exponent < 0 then
    settle (removeHalves b.exponent.natAbs ⟨b.mantissa, b.exponent⟩)
  else
    (absorbTwos b.exponent.toNat ⟨b.mantissa, b.exponent⟩).bind settle

end Decimal

end RecordFilter
