import RecordFilter.Number.Decimal

/-!
# Shortest text of a double

A double is written with the fewest decimal digits that read back as the same double.  Several
numerals of that length may do; the nearest one is taken, and of two equally near the even one.
-/

namespace RecordFilter

namespace Binary

/--
Whether a decimal rounds to the given magnitude: it lies between the midpoints to the two
neighbours, which belong to the magnitude when its mantissa is even.  Below a power of two the
neighbour is half as far.
-/
def isNearestTo (b : Binary) (d : Decimal) : Bool :=
  let gapBelow : Rat :=
    if b.mantissa = leastNormal ∧ -1074 < b.exponent then 2 ^ (b.exponent - 2)
    else 2 ^ (b.exponent - 1)
  let low := b.value - gapBelow
  let high := b.value + 2 ^ (b.exponent - 1)
  if b.mantissa % 2 = 0 then decide (low ≤ d.value) && decide (d.value ≤ high)
  else decide (low < d.value) && decide (d.value < high)

/-- How many digits stand before the decimal point; negative when zeros follow it. -/
def pointPosition (b : Binary) : Int :=
  let q := b.value
  if 1 ≤ q then (Nat.toDigits 10 q.floor.toNat).length
  else 1 - (Nat.toDigits 10 ((q.den - 1) / q.num.natAbs)).length

/-- The two multiples of `10 ^ exponent` around a magnitude, the lower one first. -/
def neighbours (b : Binary) (exponent : Int) : Decimal × Decimal :=
  let below := (b.value * 10 ^ (-exponent)).floor.toNat
  (⟨below, exponent⟩, ⟨below + 1, exponent⟩)

def nearerNeighbour (b : Binary) (low high : Decimal) : Decimal :=
  let toLow := b.value - low.value
  let toHigh := high.value - b.value
  if toLow < toHigh then low
  else if toHigh < toLow then high
  else if low.coefficient % 2 = 0 then low
  else high

def onGrid? (b : Binary) (exponent : Int) : Option Decimal :=
  let (low, high) := b.neighbours exponent
  match b.isNearestTo low, b.isNearestTo high with
  | true, true => some (b.nearerNeighbour low high)
  | true, false => some low
  | false, true => some high
  | false, false => none

/-- Tries grids from coarse to fine; the finest one always holds a numeral that reads back. -/
def firstOnGrid (b : Binary) : Nat → Int → Decimal
  | 0, exponent => (b.neighbours exponent).1
  | finer + 1, exponent =>
      match b.onGrid? exponent with
      | some d => d
      | none => firstOnGrid b finer (exponent - 1)

def shortest (b : Binary) : Decimal :=
  b.firstOnGrid 18 b.pointPosition

end Binary

/-!
# Layout

Numbers of ordinary size are written positionally with at least one digit on each side of the
point.  The others have one digit before the point and a signed exponent.
-/

namespace Decimal

def zeros (count : Nat) : List Char :=
  List.replicate count '0'

def positional (digits : List Char) (point : Int) : List Char :=
  if point ≤ 0 then '0' :: '.' :: zeros point.natAbs ++ digits
  else if digits.length ≤ point.toNat then
    digits ++ zeros (point.toNat - digits.length) ++ ['.', '0']
  else digits.take point.toNat ++ '.' :: digits.drop point.toNat

def exponentText (exponent : Int) : List Char :=
  (if exponent < 0 then '-' else '+') :: Nat.toDigits 10 exponent.natAbs

def scientific (digits : List Char) (point : Int) : List Char :=
  let tail := match digits.drop 1 with
    | [] => []
    | more => '.' :: more
  digits.take 1 ++ tail ++ 'e' :: exponentText (point - 1)

def text (d : Decimal) : List Char :=
  let digits := Nat.toDigits 10 d.coefficient
  let point := d.exponent + digits.length
  if -5 < point ∧ point ≤ 16 then positional digits point else scientific digits point

end Decimal

namespace Double

def text (x : Double) : List Char :=
  let magnitude :=
    if x.isZero then ['0', '.', '0'] else x.magnitude.shortest.text
  if x.negative then '-' :: magnitude else magnitude

end Double

end RecordFilter
