/-!
# Double-precision numbers

A double is a finite number with a sign and at most 53 significant bits.  Every operation is
exact rational arithmetic followed by one rounding to the nearest double, where a half goes to
the neighbour with the even mantissa.
-/

namespace RecordFilter

/-!
# Rounding

The mantissa of the nearest double is the integer nearest to the number measured in units of the
last place.
-/

def roundHalfEven (q : Rat) : Int :=
  let below := q.floor
  let excess := q - below
  if excess < mkRat 1 2 then below
  else if mkRat 1 2 < excess then below + 1
  else if below % 2 = 0 then below
  else below + 1

/-- A magnitude `mantissa · 2 ^ exponent`. -/
structure Binary where
  mantissa : Nat
  exponent : Int
deriving DecidableEq

namespace Binary

def value (b : Binary) : Rat :=
  b.mantissa * 2 ^ b.exponent

/-- The least mantissa with all its 53 bits in use, two to the 52nd power. -/
def leastNormal : Nat := 0x10000000000000

/-- Two to the 53rd power, which is more than 53 bits can hold. -/
def mantissaLimit : Nat := 0x20000000000000

def zero : Binary :=
  ⟨0, -1074⟩

/--
The place of the last bit of a number near `q`.  The estimate from the bit lengths is right or
one too small, and no place is finer than that of the least double.
-/
def lastPlace (q : Rat) : Int :=
  let estimate : Int :=
    max ((q.num.natAbs.log2 : Int) - (q.den.log2 : Int) - 53) (-1074)
  if (mantissaLimit : Rat) ≤ q * 2 ^ (-estimate) then estimate + 1 else estimate

/-- The magnitude of 53 bits nearest to `q`, with no bound on how large it may be. -/
def nearest (q : Rat) : Binary :=
  if q = 0 then zero
  else
    let place := lastPlace q
    let mantissa := (roundHalfEven (q * 2 ^ (-place))).toNat
    if mantissa = mantissaLimit then ⟨leastNormal, place + 1⟩ else ⟨mantissa, place⟩

/-- The magnitudes of doubles: normal ones have their top bit set, the others the least place. -/
def IsDouble (b : Binary) : Prop :=
  b.mantissa < mantissaLimit ∧ -1074 ≤ b.exponent ∧ b.exponent ≤ 971 ∧
    (leastNormal ≤ b.mantissa ∨ b.exponent = -1074)

instance (b : Binary) : Decidable b.IsDouble :=
  inferInstanceAs (Decidable (_ ∧ _ ∧ _ ∧ _))

end Binary

/-!
# Doubles

Zero has two signs, which printing keeps apart and comparison does not.
-/

structure Double where
  negative : Bool
  magnitude : Binary
  isDouble : magnitude.IsDouble
deriving DecidableEq

namespace Double

def toRat (x : Double) : Rat :=
  if x.negative then -x.magnitude.value else x.magnitude.value

def isZero (x : Double) : Bool :=
  x.magnitude.mantissa == 0

def zero (negative : Bool) : Double :=
  ⟨negative, Binary.zero, by decide⟩

/-- The double nearest to a magnitude, or nothing when that lies beyond the largest double. -/
def nearest? (negative : Bool) (magnitude : Rat) : Option Double :=
  let b := Binary.nearest magnitude
  if h : b.IsDouble then some ⟨negative, b, h⟩ else none

def withSign (x : Double) (negative : Bool) : Double :=
  { x with negative := negative }

def mul? (x y : Double) : Option Double :=
  nearest? (x.negative != y.negative) (x.magnitude.value * y.magnitude.value)

def div? (x y : Double) : Option Double :=
  nearest? (x.negative != y.negative) (x.magnitude.value / y.magnitude.value)

/-!
# Scaling by powers of ten

A significand and a decimal exponent become a double in three roundings: of the significand, of
the power of ten, and of their product or quotient.  Powers beyond the range of doubles are
divided out in pieces of `10 ^ 308`.
-/

def timesPowerOfTen? (x : Double) (power : Nat) : Option Double :=
  (nearest? false (10 ^ power)).bind x.mul?

def overPowerOfTen? (x : Double) (power : Nat) : Option Double :=
  (nearest? false (10 ^ power)).bind x.div?

def divideOut? : Nat → Double → Option Double
  | 0, x => some x
  | pieces + 1, x =>
      if x.isZero then some x
      else (x.overPowerOfTen? 308).bind (divideOut? pieces)

def scaleByTen? (x : Double) (exponent : Int) : Option Double :=
  if exponent ≥ 0 then
    if exponent ≤ 308 then x.timesPowerOfTen? exponent.toNat
    else if x.isZero then some x
    else none
  else
    let power := exponent.natAbs
    (divideOut? ((power - 1) / 308) x).bind fun y =>
      y.overPowerOfTen? ((power - 1) % 308 + 1)

def ofScientific? (negative : Bool) (significand : Nat) (exponent : Int) : Option Double :=
  ((nearest? false significand).bind (·.scaleByTen? exponent)).map (·.withSign negative)

end Double

end RecordFilter
