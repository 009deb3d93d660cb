import RecordFilter.Literal

/-!
# Ranges

A range has a lower and an upper bound, both inclusive, and either may be missing.  Concrete
bounds are ordered, numbers before strings; bounds given the other way round change places.
-/

namespace RecordFilter

inductive Bound where
  | unbounded
  | number (value : Number)
  | string (value : String)
deriving DecidableEq

namespace Bound

/-- Booleans bound nothing. -/
def ofLiteral? : Literal → Option Bound
  | .nil => some unbounded
  | .number n => some (number n)
  | .string s => some (string s)
  | .boolean _ => none

def toLiteral : Bound → Literal
  | unbounded => .nil
  | number n => .number n
  | string s => .string s

def isUnbounded : Bound → Bool
  | unbounded => true
  | _ => false

/-- A float as a bound; what is not finite bounds nothing. -/
def ofDouble : Option Double → Bound
  | some x => number (.float x)
  | none => unbounded

def same : Bound → Bound → Bool
  | unbounded, unbounded => true
  | number a, number b => a == b
  | string a, string b => a == b
  | _, _ => false

instance : BEq Bound := ⟨same⟩

/-!
# Order of bounds

A missing bound counts as equal to every other, so that it keeps its side.
-/

def order : Bound → Bound → Ordering
  | number a, number b => a.compare b
  | string a, string b => compare a b
  | number _, string _ => .lt
  | string _, number _ => .gt
  | _, _ => .eq

def orderOfValue? (value : Json) : Bound → Option Ordering
  | number b =>
      match value with
      | .number v => some (v.compare b)
      | _ => none
  | string b =>
      match value with
      | .string v => some (compare v b)
      | _ => none
  | unbounded => none

theorem order_asymm {a b : Bound} (h : order a b = .gt) : order b a ≠ .gt := by
  cases a with
  | unbounded => cases b <;> simp [order] at h
  | number m =>
      cases b with
      | unbounded => simp [order] at h
      | number n => exact Number.compare_asymm h
      | string t => simp [order] at h
  | string s =>
      cases b with
      | unbounded => simp [order] at h
      | number n => simp [order]
      | string t =>
          have hlt : compare t s = .lt := Std.OrientedCmp.gt_iff_lt.mp h
          simp [order, hlt]

end Bound

structure Range where
  lower : Bound
  upper : Bound
  ordered : lower.order upper ≠ .gt
deriving DecidableEq

namespace Range

def ofBounds (a b : Bound) : Range :=
  if h : a.order b = .gt then ⟨b, a, Bound.order_asymm h⟩ else ⟨a, b, h⟩

def same (r s : Range) : Bool :=
  r.lower == s.lower && r.upper == s.upper

instance : BEq Range := ⟨same⟩

/-!
# Containment

Only numbers and strings lie in ranges, and a concrete bound admits values of its own type alone.
-/

def isOrdered : Json → Bool
  | .number _ => true
  | .string _ => true
  | _ => false

def aboveLower (range : Range) (value : Json) : Bool :=
  match range.lower with
  | .unbounded => true
  | bound =>
      match bound.orderOfValue? value with
      | some .gt => true
      | some .eq => true
      | _ => false

def belowUpper (range : Range) (value : Json) : Bool :=
  match range.upper with
  | .unbounded => true
  | bound =>
      match bound.orderOfValue? value with
      | some .lt => true
      | some .eq => true
      | _ => false

def contains (range : Range) : Option Json → Bool
  | none => false
  | some value => isOrdered value && range.aboveLower value && range.belowUpper value

end Range

end RecordFilter
