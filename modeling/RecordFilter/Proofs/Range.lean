import RecordFilter.Proofs.Number.Equality
import RecordFilter.Range

/-!
# Equal ranges

Bounds that are equal as data stand in the same order.  A range is found again from its own
bounds: they need not change places a second time.
-/

namespace RecordFilter

namespace Bound

theorem eq_or_numbers {a b : Bound} (h : (a == b) = true) :
    a = b ∨ ∃ m n, a = number m ∧ b = number n ∧ (m == n) = true := by
  have hsame : a.same b = true := h
  cases a with
  | unbounded =>
      cases b with
      | unbounded =>
          exact Or.inl rfl
      | number n =>
          cases hsame
      | string t =>
          cases hsame
  | number m =>
      cases b with
      | unbounded =>
          cases hsame
      | number n =>
          exact Or.inr ⟨m, n, rfl, rfl, hsame⟩
      | string t =>
          cases hsame
  | string s =>
      cases b with
      | unbounded =>
          cases hsame
      | number n =>
          cases hsame
      | string t =>
          have heq : s = t := eq_of_beq hsame
          rw [heq]
          exact Or.inl rfl

theorem order_congr {a a' b b' : Bound} (ha : (a == a') = true) (hb : (b == b') = true) :
    order a b = order a' b' := by
  rcases eq_or_numbers ha with rfl | ⟨m, n, rfl, rfl, hm⟩
  · rcases eq_or_numbers hb with rfl | ⟨m, n, rfl, rfl, hm⟩
    · rfl
    · cases a with
      | unbounded =>
          rfl
      | number k =>
          exact Number.compare_congr (Number.same_refl k) hm
      | string s =>
          rfl
  · rcases eq_or_numbers hb with rfl | ⟨m', n', rfl, rfl, hm'⟩
    · cases b with
      | unbounded =>
          rfl
      | number k =>
          exact Number.compare_congr hm (Number.same_refl k)
      | string s =>
          rfl
    · exact Number.compare_congr hm hm'

theorem order_self (bound : Bound) : bound.order bound ≠ .gt := by
  intro h
  exact order_asymm h h

end Bound

namespace Range

theorem ofBounds_self (range : Range) : ofBounds range.lower range.upper = range :=
  dif_neg range.ordered

theorem eq_of_bounds {r s : Range} (hlower : r.lower = s.lower) (hupper : r.upper = s.upper) :
    r = s := by
  rw [← ofBounds_self r, ← ofBounds_self s, hlower, hupper]

end Range
end RecordFilter
