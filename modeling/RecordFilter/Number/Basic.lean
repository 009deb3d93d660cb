import RecordFilter.Number.Shortest

/-!
# Numbers of records and queries

A number is an integer of 64 bits, signed or unsigned, or a double.  The two kinds are kept apart
in print and by equality of numbers as data; they meet in the order, which compares decimals.
-/

namespace RecordFilter

namespace Number

/-- The integers from minus two to the 63rd power up to two to the 64th power, exclusive. -/
def Fits (n : Int) : Prop :=
  -0x8000000000000000 ≤ n ∧ n < 0x10000000000000000

instance (n : Int) : Decidable (Fits n) :=
  inferInstanceAs (Decidable (_ ∧ _))

end Number

inductive Number where
  | integer (value : Int) (fits : Number.Fits value)
  | float (value : Double)
deriving DecidableEq

namespace Number

def ofInt? (n : Int) : Option Number :=
  if h : Fits n then some (.integer n h) else none

def integerText (n : Int) : List Char :=
  if n < 0 then '-' :: Nat.toDigits 10 n.natAbs else Nat.toDigits 10 n.natAbs

def text : Number → List Char
  | integer n _ => integerText n
  | float x => x.text

/-- Equality as data: the kind counts, the sign of zero does not. -/
def same : Number → Number → Bool
  | integer m _, integer n _ => m == n
  | float x, float y => x == y || (x.isZero && y.isZero)
  | _, _ => false

instance : BEq Number := ⟨same⟩

/-!
# Order

Two numbers are compared as decimals when both have one, which integers always do.  Otherwise both
are compared as doubles, an integer through its nearest double.
-/

def decimal? : Number → Option Rat
  | integer n _ => some n
  | float x =>
      (Decimal.ofBinary? x.magnitude).map fun d => if x.negative then -d.value else d.value

def asDouble : Number → Rat
  | integer n _ =>
      let magnitude := (Binary.nearest n.natAbs).value
      if n < 0 then -magnitude else magnitude
  | float x => x.toRat

def compare (a b : Number) : Ordering :=
  match a.decimal?, b.decimal? with
  | some x, some y => compareOfLessAndEq x y
  | _, _ => compareOfLessAndEq a.asDouble b.asDouble

theorem compareOfLessAndEq_asymm {x y : Rat} (h : compareOfLessAndEq x y = .gt) :
    compareOfLessAndEq y x ≠ .gt := by
  unfold compareOfLessAndEq at *
  by_cases hlt : x < y
  · simp [hlt] at h
  · by_cases heq : x = y
    · simp [heq] at h
    · have hgt : y < x := Rat.lt_of_le_of_ne (Rat.not_lt.mp hlt) (Ne.symm heq)
      simp [hgt]

theorem compare_asymm {a b : Number} (h : a.compare b = .gt) : b.compare a ≠ .gt := by
  unfold compare at *
  cases ha : a.decimal? <;> cases hb : b.decimal? <;>
    rw [ha, hb] at h <;> exact compareOfLessAndEq_asymm h

end Number

end RecordFilter
