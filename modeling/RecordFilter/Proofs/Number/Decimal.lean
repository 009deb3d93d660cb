import Mathlib.Tactic.FieldSimp
import Mathlib.Tactic.Linarith
import Mathlib.Tactic.Positivity
import Mathlib.Tactic.Ring
import RecordFilter.Number.Decimal

/-!
# Decimals of magnitudes

Trading halves for tenths loses next to nothing, and only ever downwards.  Cutting digits keeps
the order of decimals, however many places they are written with.  So the order of magnitudes
survives in their decimals as long as the magnitudes are not too close to each other.
-/

namespace RecordFilter
namespace Decimal

theorem value_places (coefficient places : ℕ) :
    (⟨coefficient, -(places : ℤ)⟩ : Decimal).value = coefficient / 10 ^ places := by
  unfold value
  rw [zpow_neg, zpow_natCast, div_eq_mul_inv]

theorem value_zero_places (coefficient : ℕ) : (⟨coefficient, 0⟩ : Decimal).value = coefficient := by
  unfold value
  rw [zpow_zero, mul_one]

theorem value_nonneg (d : Decimal) : 0 ≤ d.value :=
  mul_nonneg (Nat.cast_nonneg _) (zpow_nonneg (by norm_num) _)

theorem value_succ (m : ℕ) (e : ℤ) :
    (⟨m, e + 1⟩ : Decimal).value = 10 * (⟨m, e⟩ : Decimal).value := by
  unfold value
  rw [zpow_add₀ (by norm_num), zpow_one]
  ring

theorem value_mul (m n : ℕ) (e : ℤ) :
    (⟨m * n, e⟩ : Decimal).value = m * (⟨n, e⟩ : Decimal).value := by
  unfold value
  push_cast
  ring

/-!
# Removing halves
-/

theorem removeHalves_even (n m : ℕ) (e : ℤ) :
    removeHalves (n + 1) ⟨2 * m, e⟩ = removeHalves n ⟨m, e + 1⟩ := by
  rw [removeHalves, if_pos (by omega), Nat.mul_div_cancel_left m (by omega)]

/-- Whole halves are taken off without a trace. -/
theorem removeHalves_shift (j n m : ℕ) (e : ℤ) :
    removeHalves (n + j) ⟨m * 2 ^ j, e⟩ = removeHalves n ⟨m, e + j⟩ := by
  induction j generalizing e with
  | zero =>
      simp
  | succ j ih =>
      have hdouble : m * 2 ^ (j + 1) = 2 * (m * 2 ^ j) := by
        ring
      have hexponent : e + 1 + (j : ℤ) = e + ((j + 1 : ℕ) : ℤ) := by
        push_cast
        ring
      rw [hdouble, ← Nat.add_assoc, removeHalves_even, ih, hexponent]

theorem removeHalves_exponent (n m : ℕ) (e : ℤ) :
    e ≤ (removeHalves n ⟨m, e⟩).exponent ∧ (removeHalves n ⟨m, e⟩).exponent ≤ e + n := by
  induction n generalizing m e with
  | zero =>
      simp [removeHalves]
  | succ n ih =>
      have hraised := ih (m / 2) (e + 1)
      have hkept := ih (5 * m) e
      unfold removeHalves
      push_cast
      split
      · omega
      · split <;> omega

/-- What a decimal stands for when so many halves are still to be removed from it. -/
def weight (halves : ℕ) (d : Decimal) : ℚ :=
  d.value * 5 ^ halves

theorem weight_eq (n m : ℕ) (e : ℤ) : weight n ⟨m, e⟩ = m * weight n ⟨1, e⟩ := by
  have hvalue := value_mul m 1 e
  rw [Nat.mul_one] at hvalue
  rw [weight, weight, hvalue, mul_assoc]

theorem weight_succ (n m : ℕ) (e : ℤ) : weight (n + 1) ⟨m, e⟩ = 5 * weight n ⟨m, e⟩ := by
  rw [weight, weight, pow_succ]
  ring

theorem weight_raise (n m : ℕ) (e : ℤ) : weight n ⟨m, e + 1⟩ = 10 * weight n ⟨m, e⟩ := by
  rw [weight, weight, value_succ, mul_assoc]

theorem weight_nonneg (n : ℕ) (d : Decimal) : 0 ≤ weight n d :=
  mul_nonneg d.value_nonneg (by positivity)

theorem weight_half {m : ℕ} (h : m % 2 = 0) (n : ℕ) (e : ℤ) :
    weight n ⟨m / 2, e + 1⟩ = weight (n + 1) ⟨m, e⟩ := by
  have hm : (m : ℚ) = 2 * (m / 2 : ℕ) := by
    have hnat : m = 2 * (m / 2) := by omega
    exact_mod_cast hnat
  rw [weight_raise, weight_succ, weight_eq n m, weight_eq n (m / 2), hm]
  ring

theorem weight_five (n m : ℕ) (e : ℤ) : weight n ⟨5 * m, e⟩ = weight (n + 1) ⟨m, e⟩ := by
  rw [weight_succ, weight_eq n (5 * m), weight_eq n m]
  push_cast
  ring

/-- The last bit of a large coefficient is lost, which is little of the whole. -/
theorem weight_loss {m : ℕ} (hodd : m % 2 = 1) (hlarge : limit ≤ 5 * m) (n : ℕ) (e : ℤ) :
    weight n ⟨m / 2, e + 1⟩ ≤ weight (n + 1) ⟨m, e⟩ ∧
      weight (n + 1) ⟨m, e⟩ * (limit - 5 * (n + 1)) ≤
        weight n ⟨m / 2, e + 1⟩ * (limit - 5 * n) := by
  have hm : (m : ℚ) = 2 * (m / 2 : ℕ) + 1 := by
    have hnat : m = 2 * (m / 2) + 1 := by omega
    exact_mod_cast hnat
  have hlimit : (limit : ℚ) ≤ 5 * m := by
    exact_mod_cast hlarge
  have hn : (0 : ℚ) ≤ n := Nat.cast_nonneg n
  have hunit := weight_nonneg n ⟨1, e⟩
  have hbit : (m : ℚ) * (limit - 5 * (n + 1)) ≤ 2 * (m / 2 : ℕ) * (limit - 5 * n) := by
    rw [hm] at hlimit ⊢
    linarith
  rw [weight_raise, weight_succ, weight_eq n m, weight_eq n (m / 2)]
  constructor
  · rw [hm]
    linarith
  · have hscaled := mul_le_mul_of_nonneg_left hbit hunit
    linarith

/-- Nothing is gained, and what is lost is at most five units of the limit for each half. -/
theorem removeHalves_value (n m : ℕ) (e : ℤ) :
    (removeHalves n ⟨m, e⟩).value ≤ weight n ⟨m, e⟩ ∧
      weight n ⟨m, e⟩ * (limit - 5 * n) ≤ (removeHalves n ⟨m, e⟩).value * limit := by
  induction n generalizing m e with
  | zero =>
      simp [removeHalves, weight]
  | succ n ih =>
      have hspare : ∀ d, weight (n + 1) d * (limit - 5 * (n + 1)) ≤
          weight (n + 1) d * (limit - 5 * n) := by
        intro d
        exact mul_le_mul_of_nonneg_left (by linarith) (weight_nonneg (n + 1) d)
      push_cast
      unfold removeHalves
      split
      · next heven =>
          rcases ih (m / 2) (e + 1) with ⟨hle, hge⟩
          rw [weight_half heven] at hle hge
          exact ⟨hle, (hspare _).trans hge⟩
      · next hodd =>
          split
          · rcases ih (5 * m) e with ⟨hle, hge⟩
            rw [weight_five] at hle hge
            exact ⟨hle, (hspare _).trans hge⟩
          · next hlarge =>
              have hbit : m % 2 = 1 := by omega
              have hfull : limit ≤ 5 * m := by omega
              rcases ih (m / 2) (e + 1) with ⟨hle, hge⟩
              rcases weight_loss hbit hfull n e with ⟨hless, hmore⟩
              exact ⟨hle.trans hless, hmore.trans hge⟩

/-- Nothing at all is lost as long as the coefficient has room for the fives. -/
theorem removeHalves_odd {n m : ℕ} (hodd : m % 2 = 1) (hroom : m * 5 ^ n < limit) (e : ℤ) :
    removeHalves n ⟨m, e⟩ = ⟨m * 5 ^ n, e⟩ := by
  induction n generalizing m with
  | zero =>
      rw [pow_zero, Nat.mul_one]
      rfl
  | succ n ih =>
      have hfive : 5 * m * 5 ^ n = m * 5 ^ (n + 1) := by
        ring
      have hstep : 5 * m < limit := by
        have hpow : 0 < 5 ^ n := by positivity
        have hle := Nat.le_mul_of_pos_right (5 * m) hpow
        omega
      rw [removeHalves, if_neg (by omega), if_pos hstep, ih (by omega) (by omega), hfive]

/-!
# Absorbing twos
-/

theorem absorbTwos_room {n m : ℕ} (h : m * 2 ^ n < limit) (e : ℤ) :
    absorbTwos n ⟨m, e⟩ = some ⟨m * 2 ^ n, e - n⟩ := by
  induction n generalizing m e with
  | zero =>
      simp [absorbTwos]
  | succ n ih =>
      have hdouble : 2 * m * 2 ^ n = m * 2 ^ (n + 1) := by
        ring
      have hexponent : e - 1 - (n : ℤ) = e - ((n + 1 : ℕ) : ℤ) := by
        push_cast
        ring
      have hhalf : m < limit / 2 := by
        have hpow : 0 < 2 ^ n := by positivity
        have hle := Nat.le_mul_of_pos_right (2 * m) hpow
        have hlimit : limit = 2 * (limit / 2) := by decide
        omega
      rw [absorbTwos, if_pos hhalf, ih (by omega), hdouble, hexponent]

/-- With as many tens to take in as twos, there is no room for cutting fifths. -/
theorem absorbTwos_none {n m : ℕ} (hm : m < limit) (h : limit ≤ m * 2 ^ n) :
    absorbTwos n ⟨m, n⟩ = none := by
  induction n generalizing m with
  | zero =>
      rw [pow_zero, Nat.mul_one] at h
      omega
  | succ n ih =>
      have hexponent : ((n + 1 : ℕ) : ℤ) - 1 = n := by
        push_cast
        ring
      rw [absorbTwos]
      split
      · next hhalf =>
          have hdouble : 2 * m * 2 ^ n = m * 2 ^ (n + 1) := by
            ring
          rw [hexponent]
          exact ih (by omega) (by omega)
      · rw [if_pos (by push_cast; omega)]

/-!
# Cutting digits

Coefficients are compared at one number of places; a zero behind the last place changes nothing,
so any two decimals can be brought there.
-/

/-- The coefficient without its last digit. -/
def cut (coefficient : ℕ) : ℕ :=
  if coefficient / 10 = 0 then 0
  else if 5 ≤ coefficient % 10 then coefficient / 10 + 1
  else coefficient / 10

theorem cut_mono : Monotone cut := by
  intro c d h
  unfold cut
  repeat' split
  all_goals omega

theorem cut_ten_mul (c : ℕ) : cut (10 * c) = c := by
  unfold cut
  rw [Nat.mul_div_cancel_left c (by omega), Nat.mul_mod_right]
  split
  · next hzero =>
      exact hzero.symm
  · rfl

/-- The value that is left of so many places when they have been cut to the precision. -/
def trimmed (places coefficient : ℕ) : ℚ :=
  (cutPrecision places ⟨coefficient, -(places : ℤ)⟩).value

theorem trimmed_of_lt {c : ℕ} (h : c < Binary.leastNormal) (p : ℕ) :
    trimmed p c = c / 10 ^ p := by
  unfold trimmed
  cases p with
  | zero =>
      exact value_places c 0
  | succ p =>
      rw [cutPrecision, if_pos h, value_places]

theorem trimmed_of_ge {c : ℕ} (h : Binary.leastNormal ≤ c) (p : ℕ) :
    trimmed (p + 1) c = trimmed p (cut c) := by
  have hcut : cut c = if 5 ≤ c % 10 then c / 10 + 1 else c / 10 := by
    unfold Binary.leastNormal at h
    exact if_neg (by omega)
  have hexponent : -((p + 1 : ℕ) : ℤ) + 1 = -(p : ℤ) := by
    push_cast
    ring
  rw [trimmed, cutPrecision, if_neg (by omega), hexponent, ← hcut]
  rfl

theorem trimmed_zero (c : ℕ) : trimmed 0 c = c :=
  value_zero_places c

theorem trimmed_ten_mul (p c : ℕ) : trimmed (p + 1) (10 * c) = trimmed p c := by
  by_cases h : 10 * c < Binary.leastNormal
  · have hc : c < Binary.leastNormal := by omega
    rw [trimmed_of_lt h, trimmed_of_lt hc, pow_succ]
    push_cast
    field_simp
  · rw [trimmed_of_ge (by omega), cut_ten_mul]

theorem trimmed_mono (p : ℕ) : Monotone (trimmed p) := by
  induction p with
  | zero =>
      intro c d h
      rw [trimmed_zero, trimmed_zero]
      exact_mod_cast h
  | succ p ih =>
      intro c d h
      by_cases hd : d < Binary.leastNormal
      · rw [trimmed_of_lt (by omega), trimmed_of_lt hd]
        have hcast : (c : ℚ) ≤ d := by exact_mod_cast h
        gcongr
      · rw [trimmed_of_ge (by omega : Binary.leastNormal ≤ d)]
        by_cases hc : c < Binary.leastNormal
        · -- The least coefficient that is cut stays above those that are not.
          have hleast : 10 * cut Binary.leastNormal ≥ c := by
            have hcut : cut Binary.leastNormal = 450359962737050 := by decide
            unfold Binary.leastNormal at hc
            omega
          have hsmall : cut Binary.leastNormal < Binary.leastNormal := by decide
          have hcast : (c : ℚ) ≤ (10 * cut Binary.leastNormal : ℕ) := by exact_mod_cast hleast
          calc trimmed (p + 1) c = c / 10 ^ (p + 1) := trimmed_of_lt hc (p + 1)
            _ ≤ (10 * cut Binary.leastNormal : ℕ) / 10 ^ (p + 1) := by gcongr
            _ = cut Binary.leastNormal / 10 ^ p := by
                rw [pow_succ]
                push_cast
                field_simp
            _ = trimmed p (cut Binary.leastNormal) := (trimmed_of_lt hsmall p).symm
            _ ≤ trimmed p (cut d) := ih (cut_mono (by omega))
        · rw [trimmed_of_ge (by omega)]
          exact ih (cut_mono h)

theorem cutPlaces_cases (n c : ℕ) (e : ℤ) :
    cutPlaces n ⟨c, e⟩ = ⟨cut^[n] c, e + n⟩ ∨ cutPlaces n ⟨c, e⟩ = ⟨0, 0⟩ ∧ cut^[n] c = 0 := by
  induction n generalizing c e with
  | zero =>
      left
      simp [cutPlaces]
  | succ n ih =>
      rw [cutPlaces, Function.iterate_succ_apply]
      split
      · next hzero =>
          have hcut : cut c = 0 := if_pos hzero
          have hfixed : cut^[n] 0 = 0 := Function.iterate_fixed rfl n
          rw [hcut]
          exact Or.inr ⟨rfl, hfixed⟩
      · next hpos =>
          have hcut : cut c = if 5 ≤ c % 10 then c / 10 + 1 else c / 10 := if_neg hpos
          have hexponent : e + ((n + 1 : ℕ) : ℤ) = e + 1 + n := by
            push_cast
            ring
          rw [hcut, hexponent]
          exact ih _ (e + 1)

/-- The value of a decimal that has settled. -/
def settled (coefficient places : ℕ) : ℚ :=
  trimmed (min places 28) (cut^[places - 28] coefficient)

theorem settle_eq (c k : ℕ) :
    ∃ d, settle ⟨c, -(k : ℤ)⟩ = some d ∧ d.value = settled c k := by
  have hsign : ¬(0 : ℤ) < -(k : ℤ) := by omega
  have hplaces : (-28 - -(k : ℤ)).toNat = k - 28 := by omega
  have hexponent : -(k : ℤ) + ((k - 28 : ℕ) : ℤ) = -((min k 28 : ℕ) : ℤ) := by omega
  unfold settle
  rw [if_neg hsign]
  simp only [hplaces]
  refine ⟨_, rfl, ?_⟩
  rcases cutPlaces_cases (k - 28) c (-(k : ℤ)) with hcut | ⟨hcut, hzero⟩
  · rw [hcut, hexponent]
    have hnat : (- -((min k 28 : ℕ) : ℤ)).toNat = min k 28 := by omega
    rw [hnat]
    rfl
  · rw [hcut, settled, hzero, trimmed_of_lt (by decide)]
    simp [cutPrecision, value]

theorem settled_ten_mul (c k : ℕ) : settled (10 * c) (k + 1) = settled c k := by
  unfold settled
  by_cases hk : k < 28
  · have hplaces : min (k + 1) 28 = min k 28 + 1 := by omega
    have hcuts : k + 1 - 28 = 0 ∧ k - 28 = 0 := by omega
    rw [hplaces, hcuts.1, hcuts.2]
    exact trimmed_ten_mul _ _
  · have hplaces : min (k + 1) 28 = min k 28 := by omega
    have hcuts : k + 1 - 28 = (k - 28) + 1 := by omega
    rw [hplaces, hcuts, Function.iterate_succ_apply, cut_ten_mul]

theorem settled_shift (c k j : ℕ) : settled (c * 10 ^ j) (k + j) = settled c k := by
  induction j with
  | zero =>
      rw [pow_zero, Nat.mul_one, Nat.add_zero]
  | succ j ih =>
      have hten : c * 10 ^ (j + 1) = 10 * (c * 10 ^ j) := by
        ring
      rw [hten, ← Nat.add_assoc, settled_ten_mul, ih]

/-- Settling keeps the order of decimals. -/
theorem settled_mono {c d k l : ℕ} (h : (c : ℚ) / 10 ^ k ≤ d / 10 ^ l) :
    settled c k ≤ settled d l := by
  have hscaled : c * 10 ^ l ≤ d * 10 ^ k := by
    rw [div_le_div_iff₀ (by positivity) (by positivity)] at h
    exact_mod_cast h
  rw [← settled_shift c k l, ← settled_shift d l k, Nat.add_comm l k]
  exact trimmed_mono _ (cut_mono.iterate _ hscaled)

theorem settled_zero_places (c : ℕ) : settled c 0 = c :=
  trimmed_zero c

theorem settled_of_lt {c k : ℕ} (hc : c < Binary.leastNormal) (hk : k ≤ 28) :
    settled c k = c / 10 ^ k := by
  have hplaces : min k 28 = k := by omega
  have hcuts : k - 28 = 0 := by omega
  rw [settled, hplaces, hcuts]
  exact trimmed_of_lt hc k

/-!
# Losses

A digit that is cut moves the decimal by at most half a unit of the digit before it.  Coefficients
that are cut for their length are long, so that this is little of them; those that are cut for
their places keep all but the last place.
-/

theorem cut_near (c : ℕ) : 10 * cut c ≤ c + 5 ∧ c ≤ 10 * cut c + 9 := by
  unfold cut
  repeat' split
  all_goals omega

theorem iterate_cut_near (n c : ℕ) :
    10 ^ n * cut^[n] c < c + 10 ^ n ∧ c < 10 ^ n * cut^[n] c + 10 ^ n := by
  induction n generalizing c with
  | zero =>
      simp
  | succ n ih =>
      have hten : 10 ^ (n + 1) * cut^[n] (cut c) = 10 * (10 ^ n * cut^[n] (cut c)) := by
        ring
      have hcut := cut_near c
      have hrest := ih (cut c)
      rw [Function.iterate_succ_apply, hten, pow_succ]
      omega

/-- The loss is a part of the coefficient that leaves a unit for the digits cut before. -/
theorem trimmed_near_of_ge {c : ℕ} (h : Binary.leastNormal ≤ c) (p : ℕ) :
    |trimmed p c * 10 ^ p - c| ≤ c / 2 ^ 49 - 1 := by
  induction p generalizing c with
  | zero =>
      have hc : (2 : ℚ) ^ 52 ≤ c := by
        exact_mod_cast h
      rw [trimmed_zero, pow_zero, mul_one, sub_self, abs_zero]
      linarith
  | succ p ih =>
      have hc : (2 : ℚ) ^ 52 ≤ c := by
        exact_mod_cast h
      have hcut : c ≤ 10 * cut c + 5 := by
        unfold cut
        unfold Binary.leastNormal at h
        repeat' split
        all_goals omega
      have habove : (10 * cut c : ℚ) ≤ c + 5 := by
        exact_mod_cast (cut_near c).1
      have hbelow : (c : ℚ) ≤ 10 * cut c + 5 := by
        exact_mod_cast hcut
      rw [trimmed_of_ge h, pow_succ, ← mul_assoc, abs_le]
      by_cases hshort : cut c < Binary.leastNormal
      · rw [trimmed_of_lt hshort, div_mul_cancel₀ _ (by positivity)]
        constructor <;> linarith
      · have hrest := abs_le.mp (ih (Nat.le_of_not_lt hshort))
        constructor <;> linarith

theorem trimmed_near (p c : ℕ) : |trimmed p c - c / 10 ^ p| ≤ c / 10 ^ p / 2 ^ 49 := by
  by_cases h : c < Binary.leastNormal
  · rw [trimmed_of_lt h, sub_self, abs_zero]
    positivity
  · have hnear := trimmed_near_of_ge (Nat.le_of_not_lt h) p
    have hscaled : trimmed p c - c / 10 ^ p = (trimmed p c * 10 ^ p - c) / 10 ^ p := by
      field_simp
    have hpow : |(10 : ℚ) ^ p| = 10 ^ p := abs_of_pos (by positivity)
    rw [hscaled, abs_div, hpow, div_right_comm]
    gcongr
    linarith

theorem settled_near (c k : ℕ) :
    |settled c k - c / 10 ^ k| ≤ c / 10 ^ k / 2 ^ 49 + 2 / 10 ^ 28 := by
  have hnear := abs_le.mp (trimmed_near (min k 28) (cut^[k - 28] c))
  by_cases hk : k ≤ 28
  · have hplaces : min k 28 = k := by omega
    have hcuts : k - 28 = 0 := by omega
    rw [hplaces, hcuts, Function.iterate_zero_apply] at hnear
    rw [settled, hplaces, hcuts, Function.iterate_zero_apply, abs_le]
    constructor <;> linarith
  · rcases Nat.exists_eq_add_of_le (Nat.le_of_not_le hk) with ⟨n, rfl⟩
    have hplaces : min (28 + n) 28 = 28 := by omega
    have hcuts : 28 + n - 28 = n := by omega
    rcases iterate_cut_near n c with ⟨habove, hbelow⟩
    have hsplit : (c : ℚ) / 10 ^ (28 + n) = c / 10 ^ n / 10 ^ 28 := by
      rw [pow_add, mul_comm, div_div]
    have hcut : |(cut^[n] c : ℚ) - c / 10 ^ n| ≤ 1 := by
      have hupper : (10 : ℚ) ^ n * cut^[n] c < c + 10 ^ n := by
        exact_mod_cast habove
      have hlower : (c : ℚ) < 10 ^ n * cut^[n] c + 10 ^ n := by
        exact_mod_cast hbelow
      have hscaled : (c : ℚ) / 10 ^ n * 10 ^ n = c := div_mul_cancel₀ _ (by positivity)
      rw [abs_le]
      constructor
      · rw [neg_le_sub_iff_le_add, div_le_iff₀ (by positivity)]
        linarith
      · rw [sub_le_iff_le_add, ← mul_le_mul_iff_left₀ (by positivity : (0 : ℚ) < 10 ^ n)]
        linarith
    have hplace := abs_le.mp hcut
    rw [hplaces, hcuts] at hnear
    rw [settled, hplaces, hcuts, hsplit, abs_le]
    constructor <;> linarith

end Decimal
end RecordFilter
