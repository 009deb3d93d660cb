import RecordFilter.Number.Basic

/-!
# Equal numbers

Numbers that are equal as data are the same, or they are zeros with different signs.  The order
does not tell them apart.
-/

namespace RecordFilter
namespace Number

theorem same_refl (n : Number) : (n == n) = true := by
  cases n with
  | integer value fits =>
      show (value == value) = true
      exact beq_self_eq_true value
  | float x =>
      show (x == x || (x.isZero && x.isZero)) = true
      rw [beq_self_eq_true, Bool.true_or]

theorem eq_or_isZero {m n : Number} (h : (m == n) = true) :
    m = n ∨ ∃ x y, m = .float x ∧ n = .float y ∧ x.isZero = true ∧ y.isZero = true := by
  have hsame : m.same n = true := h
  cases m with
  | integer value fits =>
      cases n with
      | integer value' fits' =>
          have hvalue : value = value' := eq_of_beq hsame
          subst hvalue
          exact Or.inl rfl
      | float y =>
          cases hsame
  | float x =>
      cases n with
      | integer value' fits' =>
          cases hsame
      | float y =>
          rcases Bool.or_eq_true_iff.mp hsame with heq | hzero
          · rw [eq_of_beq heq]
            exact Or.inl rfl
          · rw [Bool.and_eq_true] at hzero
            exact Or.inr ⟨x, y, rfl, rfl, hzero⟩

theorem decimal?_of_isZero {x : Double} (h : x.isZero = true) : (float x).decimal? = some 0 := by
  have hmantissa : x.magnitude.mantissa = 0 := eq_of_beq h
  have hzero : Decimal.ofBinary? x.magnitude = some ⟨0, 0⟩ := if_pos hmantissa
  have hvalue : (Decimal.mk 0 0).value = 0 := by
    unfold Decimal.value
    exact Rat.zero_mul _
  show (Decimal.ofBinary? x.magnitude).map _ = some 0
  rw [hzero, Option.map_some, hvalue]
  split
  · exact congrArg some Rat.neg_zero
  · rfl

theorem asDouble_of_isZero {x : Double} (h : x.isZero = true) : (float x).asDouble = 0 := by
  have hmantissa : x.magnitude.mantissa = 0 := eq_of_beq h
  have hvalue : x.magnitude.value = 0 := by
    unfold Binary.value
    rw [hmantissa]
    exact Rat.zero_mul _
  show x.toRat = 0
  unfold Double.toRat
  rw [hvalue]
  split
  · exact Rat.neg_zero
  · rfl

theorem compare_congr {m m' n n' : Number} (hm : (m == m') = true) (hn : (n == n') = true) :
    m.compare n = m'.compare n' := by
  have hsame : ∀ {a b : Number}, (a == b) = true →
      a.decimal? = b.decimal? ∧ a.asDouble = b.asDouble := by
    intro a b h
    rcases eq_or_isZero h with rfl | ⟨x, y, rfl, rfl, hx, hy⟩
    · exact ⟨rfl, rfl⟩
    · rw [decimal?_of_isZero hx, decimal?_of_isZero hy, asDouble_of_isZero hx,
        asDouble_of_isZero hy]
      exact ⟨rfl, rfl⟩
  unfold compare
  rw [(hsame hm).1, (hsame hm).2, (hsame hn).1, (hsame hn).2]

end Number
end RecordFilter
