import RecordFilter.Proofs.Number.Decimal

/-!
# Magnitudes of numbers

Whole numbers and the magnitudes of doubles are whole numbers that have been halved so many times.
A magnitude that is halved at all has 53 bits, so different ones lie further apart than trading
halves for tenths can bring them together: their decimals stand in the same order, or are the same.
-/

namespace RecordFilter

/-- The number `numerator / 2 ^ halvings`. -/
structure Dyadic where
  numerator : ℕ
  halvings : ℕ

namespace Dyadic

def value (x : Dyadic) : ℚ :=
  x.numerator / 2 ^ x.halvings

/-- It is whole, or has the bits and places of a double. -/
def Narrow (x : Dyadic) : Prop :=
  x.halvings = 0 ∨ x.numerator < Binary.mantissaLimit ∧ x.halvings ≤ 1074

def traded (x : Dyadic) : Decimal :=
  Decimal.removeHalves x.halvings ⟨x.numerator, -(x.halvings : ℤ)⟩

/-- The decimal that the magnitude settles on. -/
def decimal (x : Dyadic) : ℚ :=
  Decimal.settled x.traded.coefficient x.traded.exponent.natAbs

theorem value_nonneg (x : Dyadic) : 0 ≤ x.value := by
  unfold value
  positivity

theorem value_whole (n : ℕ) : value ⟨n, 0⟩ = n := by
  unfold value
  rw [pow_zero, div_one]

/-!
# Trading
-/

theorem traded_exponent (x : Dyadic) : x.traded.exponent = -(x.traded.exponent.natAbs : ℤ) := by
  have h := Decimal.removeHalves_exponent x.halvings x.numerator (-(x.halvings : ℤ))
  unfold traded
  omega

theorem traded_value (x : Dyadic) :
    x.traded.value = x.traded.coefficient / 10 ^ x.traded.exponent.natAbs := by
  have h : x.traded = ⟨x.traded.coefficient, -(x.traded.exponent.natAbs : ℤ)⟩ := by
    rw [← x.traded_exponent]
  exact (congrArg Decimal.value h).trans (Decimal.value_places _ _)

theorem weight_eq_value (x : Dyadic) :
    Decimal.weight x.halvings ⟨x.numerator, -(x.halvings : ℤ)⟩ = x.value := by
  have hten : (10 : ℚ) ^ x.halvings = 2 ^ x.halvings * 5 ^ x.halvings := by
    rw [← mul_pow]
    norm_num
  rw [Decimal.weight, Decimal.value_places, value, hten]
  field_simp

theorem traded_le (x : Dyadic) : x.traded.value ≤ x.value := by
  rw [← x.weight_eq_value]
  exact (Decimal.removeHalves_value _ _ _).1

theorem traded_ge (x : Dyadic) :
    x.value * (Decimal.limit - 5 * x.halvings) ≤ x.traded.value * Decimal.limit := by
  rw [← x.weight_eq_value]
  exact (Decimal.removeHalves_value _ _ _).2

/-- What trading loses is far less than a double can hold. -/
theorem traded_near {x : Dyadic} (h : x.Narrow) :
    x.value * (2 ^ 96 - 5370) ≤ x.traded.value * 2 ^ 96 := by
  have hlosses : (x.halvings : ℚ) ≤ 1074 := by
    rcases h with hzero | hbits
    · rw [hzero]
      norm_num
    · exact_mod_cast hbits.2
  have hlimit : (Decimal.limit : ℚ) = 2 ^ 96 := by
    norm_num [Decimal.limit]
  have hloss := mul_le_mul_of_nonneg_left hlosses x.value_nonneg
  have hge := x.traded_ge
  rw [hlimit] at hge
  linarith

theorem traded_whole (n : ℕ) : traded ⟨n, 0⟩ = ⟨n, 0⟩ :=
  rfl

theorem decimal_whole (n : ℕ) : decimal ⟨n, 0⟩ = n :=
  Decimal.settled_zero_places n

theorem traded_shift (m h j : ℕ) : traded ⟨m * 2 ^ j, h + j⟩ = traded ⟨m, h⟩ := by
  have hexponent : -((h + j : ℕ) : ℤ) + (j : ℤ) = -(h : ℤ) := by
    push_cast
    ring
  unfold traded
  rw [Decimal.removeHalves_shift, hexponent]

/-- However often a magnitude is doubled and halved again, it is traded for the same. -/
theorem traded_congr {x y : Dyadic} (h : x.value = y.value) : x.traded = y.traded := by
  rcases x with ⟨m, k⟩
  rcases y with ⟨n, l⟩
  have hcross : m * 2 ^ l = n * 2 ^ k := by
    unfold value at h
    rw [div_eq_div_iff (by positivity) (by positivity)] at h
    exact_mod_cast h
  rw [← traded_shift m k l, ← traded_shift n l k, hcross, Nat.add_comm k l]

/-!
# Gaps
-/

theorem value_lt_iff {x y : Dyadic} :
    x.value < y.value ↔ x.numerator * 2 ^ y.halvings < y.numerator * 2 ^ x.halvings := by
  unfold value
  rw [div_lt_div_iff₀ (by positivity) (by positivity)]
  exact_mod_cast Iff.rfl

theorem gap_cross {x y : Dyadic} (hx : x.Narrow) (hy : y.Narrow) (hhalved : y.halvings ≠ 0)
    (h : x.value < y.value) :
    x.numerator * 2 ^ y.halvings * 2 ^ 54 ≤ y.numerator * 2 ^ x.halvings * (2 ^ 54 - 1) := by
  rcases x with ⟨m, k⟩
  rcases y with ⟨n, l⟩
  rw [value_lt_iff] at h
  rcases hy with hzero | ⟨hn, -⟩
  · exact absurd hzero hhalved
  simp only at h hn ⊢
  unfold Binary.mantissaLimit at hn
  rcases Nat.le_total k l with hkl | hlk
  · -- The magnitude below is a multiple of the last place of the one above.
    rcases Nat.exists_eq_add_of_le hkl with ⟨j, rfl⟩
    have hunits : m * 2 ^ j < n := by
      rw [pow_add, mul_comm (2 ^ k), ← mul_assoc] at h
      exact Nat.lt_of_mul_lt_mul_right h
    have hscaled : m * 2 ^ j * 2 ^ 54 ≤ n * (2 ^ 54 - 1) := by
      omega
    calc m * 2 ^ (k + j) * 2 ^ 54 = m * 2 ^ j * 2 ^ 54 * 2 ^ k := by ring
      _ ≤ n * (2 ^ 54 - 1) * 2 ^ k := Nat.mul_le_mul_right _ hscaled
      _ = n * 2 ^ k * (2 ^ 54 - 1) := by ring
  · rcases Nat.exists_eq_add_of_le hlk with ⟨j, rfl⟩
    have hunits : m < n * 2 ^ j := by
      rw [pow_add, mul_comm (2 ^ l), ← mul_assoc] at h
      exact Nat.lt_of_mul_lt_mul_right h
    have hscaled : m * 2 ^ 54 ≤ n * 2 ^ j * (2 ^ 54 - 1) := by
      rcases hx with hzero | ⟨hm, -⟩
      · have hplaces : j = 0 := by
          simp only at hzero
          omega
        rw [hplaces, pow_zero, Nat.mul_one] at hunits ⊢
        omega
      · simp only at hm
        unfold Binary.mantissaLimit at hm
        generalize n * 2 ^ j = above at hunits ⊢
        omega
    calc m * 2 ^ l * 2 ^ 54 = m * 2 ^ 54 * 2 ^ l := by ring
      _ ≤ n * 2 ^ j * (2 ^ 54 - 1) * 2 ^ l := Nat.mul_le_mul_right _ hscaled
      _ = n * 2 ^ (l + j) * (2 ^ 54 - 1) := by ring

/-- The gap below a magnitude that is halved is at least one part in `2 ^ 54`. -/
theorem gap {x y : Dyadic} (hx : x.Narrow) (hy : y.Narrow) (hhalved : y.halvings ≠ 0)
    (h : x.value < y.value) : x.value * 2 ^ 54 ≤ y.value * (2 ^ 54 - 1) := by
  have hcast := (Nat.cast_le (α := ℚ)).mpr (gap_cross hx hy hhalved h)
  push_cast at hcast
  unfold value
  rw [div_mul_eq_mul_div, div_mul_eq_mul_div, div_le_div_iff₀ (by positivity) (by positivity)]
  norm_num at hcast ⊢
  linarith

/-!
# Order
-/

theorem traded_mono {x y : Dyadic} (hx : x.Narrow) (hy : y.Narrow) (h : x.value ≤ y.value) :
    x.traded.value ≤ y.traded.value := by
  rcases eq_or_lt_of_le h with heq | hlt
  · rw [traded_congr heq]
  · by_cases hhalved : y.halvings = 0
    · rcases y with ⟨n, l⟩
      have hl : l = 0 := hhalved
      subst hl
      rw [traded_whole, Decimal.value_zero_places, ← value_whole]
      exact x.traded_le.trans h
    · have hgap := gap hx hy hhalved hlt
      have hle := x.traded_le
      have hloss := traded_near hy
      have hpos := y.value_nonneg
      linarith

theorem decimal_mono {x y : Dyadic} (hx : x.Narrow) (hy : y.Narrow) (h : x.value ≤ y.value) :
    x.decimal ≤ y.decimal := by
  apply Decimal.settled_mono
  rw [← x.traded_value, ← y.traded_value]
  exact traded_mono hx hy h

theorem decimal_congr {x y : Dyadic} (h : x.value = y.value) : x.decimal = y.decimal := by
  unfold decimal
  rw [traded_congr h]

theorem decimal_of_zero {x : Dyadic} (h : x.value = 0) : x.decimal = 0 := by
  have hzero : x.value = value ⟨0, 0⟩ := by
    rw [h, value_whole, Nat.cast_zero]
  rw [decimal_congr hzero, decimal_whole, Nat.cast_zero]

theorem decimal_nonneg {x : Dyadic} (hx : x.Narrow) : 0 ≤ x.decimal := by
  have hzero : value ⟨0, 0⟩ ≤ x.value := by
    rw [value_whole, Nat.cast_zero]
    exact x.value_nonneg
  have hmono := decimal_mono (Or.inl rfl) hx hzero
  rwa [decimal_whole, Nat.cast_zero] at hmono

/-- A magnitude is found in its decimal up to its last bits and places. -/
theorem decimal_near {x : Dyadic} (h : x.Narrow) :
    |x.decimal - x.value| ≤ x.value / 2 ^ 48 + 2 / 10 ^ 28 := by
  have hsettled := abs_le.mp
    (Decimal.settled_near x.traded.coefficient x.traded.exponent.natAbs)
  have hle := x.traded_le
  have hge := traded_near h
  have hpos := x.value_nonneg
  rw [← x.traded_value] at hsettled
  unfold decimal
  rw [abs_le]
  constructor <;> linarith

/-!
# Short decimals

What fits into the precision of the decimals is found in them unchanged.
-/

theorem exists_reduced (x : Dyadic) :
    ∃ m h, (m % 2 = 1 ∨ h = 0) ∧ value ⟨m, h⟩ = x.value := by
  rcases x with ⟨m, h⟩
  induction h generalizing m with
  | zero =>
      exact ⟨m, 0, Or.inr rfl, rfl⟩
  | succ h ih =>
      rcases Nat.mod_two_eq_zero_or_one m with heven | hodd
      · rcases ih (m / 2) with ⟨n, l, hreduced, hvalue⟩
        refine ⟨n, l, hreduced, hvalue.trans ?_⟩
        have hm : (m : ℚ) = 2 * (m / 2 : ℕ) := by
          have hnat : m = 2 * (m / 2) := by omega
          exact_mod_cast hnat
        unfold value
        rw [hm, pow_succ]
        field_simp
      · exact ⟨m, h + 1, Or.inl hodd, rfl⟩

/-- An odd number of halves needs as many places as it has been halved. -/
theorem le_of_odd {m h c k : ℕ} (hodd : m % 2 = 1) (hcross : m * 10 ^ k = c * 2 ^ h) :
    h ≤ k ∧ m * 5 ^ h ≤ c := by
  have hten : m * 10 ^ k = m * 5 ^ k * 2 ^ k := by
    rw [mul_assoc, ← mul_pow]
    norm_num
  have hfive : m * 5 ^ k % 2 = 1 := by
    rw [Nat.mul_mod, Nat.pow_mod, hodd]
    simp
  have hcoprime : Nat.Coprime (2 ^ h) (m * 5 ^ k) := by
    apply Nat.Coprime.pow_left
    rw [Nat.coprime_iff_gcd_eq_one, Nat.gcd_rec, hfive]
    rfl
  have hdvd : 2 ^ h ∣ 2 ^ k := by
    apply hcoprime.dvd_of_dvd_mul_left
    rw [← hten, hcross]
    exact Nat.dvd_mul_left _ _
  have hle : h ≤ k := (Nat.pow_dvd_pow_iff_le_right (by omega)).mp hdvd
  refine ⟨hle, ?_⟩
  have hpow : 2 ^ h * (m * 5 ^ k) ≤ 2 ^ h * c := by
    rw [Nat.mul_comm (2 ^ h) c, ← hcross, hten, Nat.mul_comm]
    exact Nat.mul_le_mul_left _ (Nat.pow_le_pow_right (by omega) hle)
  exact (Nat.mul_le_mul_left m (Nat.pow_le_pow_right (by omega) hle)).trans
    (Nat.le_of_mul_le_mul_left hpow (by positivity))

/-- If there is room for its fives, an odd number of halves is not changed at all. -/
theorem decimal_of_odd {m h : ℕ} (hodd : m % 2 = 1) (hroom : m * 5 ^ h < Binary.leastNormal) :
    decimal ⟨m, h⟩ = value ⟨m, h⟩ := by
  have hlimit : m * 5 ^ h < Decimal.limit := by
    unfold Binary.leastNormal at hroom
    unfold Decimal.limit
    omega
  have hplaces : h ≤ 28 := by
    by_contra hmany
    have hfive : 5 ^ 29 ≤ 5 ^ h := Nat.pow_le_pow_right (by omega) (by omega)
    have hpos : 5 ^ h ≤ m * 5 ^ h := Nat.le_mul_of_pos_left _ (by omega)
    unfold Binary.leastNormal at hroom
    omega
  have htraded : traded ⟨m, h⟩ = ⟨m * 5 ^ h, -(h : ℤ)⟩ := Decimal.removeHalves_odd hodd hlimit _
  have hten : (10 : ℚ) ^ h = 2 ^ h * 5 ^ h := by
    rw [← mul_pow]
    norm_num
  have hnat : (-(h : ℤ)).natAbs = h := by omega
  unfold decimal
  rw [htraded]
  simp only [hnat]
  rw [Decimal.settled_of_lt hroom hplaces, value, hten]
  push_cast
  field_simp

theorem decimal_of_short {x : Dyadic} {c k : ℕ} (hvalue : x.value = c / 10 ^ k)
    (hshort : k = 0 ∨ c < Binary.leastNormal) : x.decimal = x.value := by
  rcases x.exists_reduced with ⟨m, h, hreduced, hsame⟩
  rw [← decimal_congr hsame, ← hsame]
  by_cases hwhole : h = 0
  · rw [hwhole, decimal_whole, value_whole]
  · rcases hreduced with hodd | hzero
    · have hcross : m * 10 ^ k = c * 2 ^ h := by
        rw [hvalue, value, div_eq_div_iff (by positivity) (by positivity)] at hsame
        exact_mod_cast hsame
      rcases le_of_odd hodd hcross with ⟨hle, hcoefficient⟩
      rcases hshort with hk | hc
      · omega
      · exact decimal_of_odd hodd (hcoefficient.trans_lt hc)
    · exact absurd hzero hwhole

end Dyadic
end RecordFilter
