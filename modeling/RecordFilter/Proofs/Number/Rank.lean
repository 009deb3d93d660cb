import RecordFilter.Proofs.Number.Order

/-!
# Ranks of numbers

Numbers with a decimal are compared in one way and all others in another.  Both ways read off one
scale, on which a number stands at its decimal, or at its value if it has no decimal: decimals stay
below the limit, and every number without one lies beyond it.  So comparing numbers is as lawful as
comparing rationals.
-/

namespace RecordFilter

namespace Dyadic

/-- What is halved at all is far below the limit, and whole numbers do not move. -/
theorem decimal_lt_limit {x : Dyadic} (hx : x.Narrow) (h : x.value < Decimal.limit) :
    x.decimal < Decimal.limit := by
  rcases x with ⟨numerator, halvings⟩
  rcases hx with hwhole | hbits
  · have hzero : halvings = 0 := hwhole
    subst hzero
    rw [decimal_whole, ← value_whole]
    exact h
  · have hsmall : value ⟨numerator, halvings⟩ ≤ value ⟨Binary.mantissaLimit, 0⟩ := by
      have hnumerator : (numerator : ℚ) ≤ Binary.mantissaLimit := by
        exact_mod_cast hbits.1.le
      have hhalved : value ⟨numerator, halvings⟩ ≤ numerator :=
        div_le_self (Nat.cast_nonneg numerator) (one_le_pow₀ (by norm_num))
      rw [value_whole]
      exact hhalved.trans hnumerator
    have hdecimal := decimal_mono (Or.inr hbits) (Or.inl rfl) hsmall
    rw [decimal_whole] at hdecimal
    exact hdecimal.trans_lt (by norm_num [Binary.mantissaLimit, Decimal.limit])

end Dyadic

namespace Number

/-- Where a number stands among all numbers. -/
def rank (a : Number) : ℚ :=
  a.decimal?.getD a.value

theorem rank_of_some {a : Number} {d : ℚ} (h : a.decimal? = some d) : a.rank = d := by
  rw [rank, h, Option.getD_some]

theorem rank_of_none {a : Number} (h : a.decimal? = none) : a.rank = a.value := by
  rw [rank, h, Option.getD_none]

theorem abs_decimal_lt {a : Number} {d : ℚ} (h : a.decimal? = some d) : |d| < Decimal.limit := by
  rcases a.decimal?_cases with ⟨-, hsmall⟩ | ⟨hnone, -⟩
  · rw [abs_value] at hsmall
    rw [decimal?_eq_some h, abs_signed, abs_of_nonneg (Dyadic.decimal_nonneg a.magnitude_narrow)]
    exact Dyadic.decimal_lt_limit a.magnitude_narrow hsmall
  · rw [hnone] at h
    cases h

/-- Whatever is compared with a number beyond the limit may be taken at its rank. -/
theorem cmp_value_eq_cmp_rank {a : Number} (b : Number) (h : a.decimal? = none) :
    cmp a.value b.value = cmp a.rank b.rank := by
  rw [rank_of_none h]
  rcases a.decimal?_cases with ⟨ha, -⟩ | ⟨-, halarge⟩
  · rw [h] at ha
    cases ha
  · rcases b.decimal?_cases with ⟨hb, hbsmall⟩ | ⟨hb, -⟩
    · rw [rank_of_some hb]
      exact cmp_of_large halarge hbsmall (abs_decimal_lt hb)
    · rw [rank_of_none hb]

/-- Both ways of comparing numbers compare their ranks. -/
theorem compare_eq_cmp_rank (a b : Number) : a.compare b = cmp a.rank b.rank := by
  cases ha : a.decimal? with
  | none =>
      rw [compare_of_large (Or.inl ha)]
      exact cmp_value_eq_cmp_rank b ha
  | some c =>
      cases hb : b.decimal? with
      | none =>
          rw [compare_of_large (Or.inr hb), cmp_eq_cmp_symm]
          exact cmp_value_eq_cmp_rank a hb
      | some d =>
          rw [compare_of_some ha hb, rank_of_some ha, rank_of_some hb]

/-- The order of numbers is total and transitive. -/
instance : Std.TransCmp compare where
  eq_swap := by
    intro a b
    rw [compare_eq_cmp_rank, compare_eq_cmp_rank, cmp_swap]
  isLE_trans := by
    intro a b c hab hbc
    rw [compare_eq_cmp_rank, cmp_eq_compare] at *
    exact Std.TransCmp.isLE_trans hab hbc

end Number
end RecordFilter
