import Mathlib.Order.Compare
import RecordFilter.Number.Basic
import RecordFilter.Proofs.Number.Dyadic

/-!
# The order of numbers

The value of a number is the integer or the double that it holds.  Comparing numbers gives the
order of their values, or finds two numbers equal that settle on one decimal.  It never takes a
number for less than one below it.
-/

namespace RecordFilter

/-!
# Doubles
-/

namespace Binary

/-- The magnitude in halves. -/
def dyadic (b : Binary) : Dyadic :=
  if b.exponent < 0 then ⟨b.mantissa, b.exponent.natAbs⟩
  else ⟨b.mantissa * 2 ^ b.exponent.natAbs, 0⟩

theorem value_nonneg (b : Binary) : 0 ≤ b.value :=
  mul_nonneg (Nat.cast_nonneg _) (zpow_nonneg (by norm_num) _)

theorem dyadic_value (b : Binary) : b.dyadic.value = b.value := by
  unfold dyadic value Dyadic.value
  split
  · have hexponent : b.exponent = -(b.exponent.natAbs : ℤ) := by omega
    conv_rhs => rw [hexponent, zpow_neg, zpow_natCast, ← div_eq_mul_inv]
  · have hexponent : b.exponent = (b.exponent.natAbs : ℤ) := by omega
    conv_rhs => rw [hexponent, zpow_natCast]
    push_cast
    simp

theorem dyadic_narrow {b : Binary} (h : b.IsDouble) : b.dyadic.Narrow := by
  rcases h with ⟨hmantissa, hleast, -, -⟩
  unfold dyadic
  split
  · have hplaces : b.exponent.natAbs ≤ 1074 := by omega
    exact Or.inr ⟨hmantissa, hplaces⟩
  · exact Or.inl rfl

theorem ofBinary?_of_neg {m : ℕ} {e : ℤ} (hzero : m ≠ 0) (hnegative : e < 0) :
    ∃ d, Decimal.ofBinary? ⟨m, e⟩ = some d ∧ d.value = (dyadic ⟨m, e⟩).decimal := by
  have hdyadic : dyadic ⟨m, e⟩ = ⟨m, e.natAbs⟩ := if_pos hnegative
  have hexponent : e = -(e.natAbs : ℤ) := by omega
  have htraded : Decimal.removeHalves e.natAbs ⟨m, e⟩ = Dyadic.traded ⟨m, e.natAbs⟩ := by
    rw [Dyadic.traded, ← hexponent]
  rcases Decimal.settle_eq (Dyadic.traded ⟨m, e.natAbs⟩).coefficient
    (Dyadic.traded ⟨m, e.natAbs⟩).exponent.natAbs with ⟨d, hd, hvalue⟩
  rw [← Dyadic.traded_exponent] at hd
  refine ⟨d, ?_, ?_⟩
  · rw [Decimal.ofBinary?, if_neg hzero, if_pos hnegative, htraded]
    exact hd
  · rw [hvalue, hdyadic]
    rfl

/-- Without halves, the twos are absorbed as long as there is room for the whole number. -/
theorem ofBinary?_of_nonneg {m : ℕ} {e : ℤ} (hzero : m ≠ 0) (hpositive : ¬e < 0) :
    Decimal.ofBinary? ⟨m, e⟩ =
      (Decimal.absorbTwos e.natAbs ⟨m, (e.natAbs : ℤ)⟩).bind Decimal.settle := by
  have hexponent : e = (e.natAbs : ℤ) := by omega
  have htwos : e.toNat = e.natAbs := by omega
  rw [Decimal.ofBinary?, if_neg hzero, if_neg hpositive, htwos, ← hexponent]

theorem value_lt_limit_of_neg {b : Binary} (h : b.mantissa < mantissaLimit)
    (hnegative : b.exponent < 0) : b.value < Decimal.limit := by
  have hbits : (b.mantissa : ℚ) < mantissaLimit := by
    exact_mod_cast h
  have hroom : (mantissaLimit : ℚ) ≤ Decimal.limit := by
    norm_num [mantissaLimit, Decimal.limit]
  have hhalves : (2 : ℚ) ^ b.exponent ≤ 1 := zpow_le_one_of_nonpos₀ (by norm_num) hnegative.le
  have hle := mul_le_of_le_one_right (Nat.cast_nonneg b.mantissa) hhalves
  exact hle.trans_lt (hbits.trans_le hroom)

/-- A magnitude has a decimal exactly if it is below the limit. -/
theorem ofBinary?_cases {b : Binary} (h : b.IsDouble) :
    ((∃ d, Decimal.ofBinary? b = some d ∧ d.value = b.dyadic.decimal) ∧
        b.value < Decimal.limit) ∨
      Decimal.ofBinary? b = none ∧ Decimal.limit ≤ b.value := by
  have hvalue := b.dyadic_value
  rcases b with ⟨m, e⟩
  have hmantissa : m < mantissaLimit := h.1
  by_cases hzero : m = 0
  · have hnone : value ⟨m, e⟩ = 0 := by
      rw [hzero, value, Nat.cast_zero, zero_mul]
    refine Or.inl ⟨⟨⟨0, 0⟩, if_pos hzero, ?_⟩, ?_⟩
    · rw [Dyadic.decimal_of_zero (hvalue.trans hnone), Decimal.value_zero_places, Nat.cast_zero]
    · rw [hnone]
      norm_num [Decimal.limit]
  · by_cases hnegative : e < 0
    · exact Or.inl ⟨ofBinary?_of_neg hzero hnegative, value_lt_limit_of_neg hmantissa hnegative⟩
    · have hdyadic : dyadic ⟨m, e⟩ = ⟨m * 2 ^ e.natAbs, 0⟩ := if_neg hnegative
      rw [ofBinary?_of_nonneg hzero hnegative, ← hvalue, hdyadic, Dyadic.value_whole]
      by_cases hroom : m * 2 ^ e.natAbs < Decimal.limit
      · rcases Decimal.settle_eq (m * 2 ^ e.natAbs) 0 with ⟨d, hd, hdvalue⟩
        refine Or.inl ⟨⟨d, ?_, ?_⟩, by exact_mod_cast hroom⟩
        · rw [Decimal.absorbTwos_room hroom, sub_self]
          exact hd
        · rw [hdvalue, Dyadic.decimal_whole, Decimal.settled_zero_places]
      · refine Or.inr ⟨?_, by exact_mod_cast Nat.le_of_not_lt hroom⟩
        have hfits : m < Decimal.limit := by
          unfold mantissaLimit at hmantissa
          unfold Decimal.limit
          omega
        rw [Decimal.absorbTwos_none hfits (Nat.le_of_not_lt hroom)]
        rfl

/-!
# Rounding integers

An integer of 64 bits is not rounded to anything near the limit.
-/

theorem roundHalfEven_le (q : ℚ) : (roundHalfEven q : ℚ) ≤ q + 1 := by
  have hfloor := Rat.floor_le q
  unfold roundHalfEven
  simp only
  repeat' split
  all_goals
    push_cast
    linarith

theorem toNat_roundHalfEven_le {q : ℚ} (h : 0 ≤ q) : ((roundHalfEven q).toNat : ℚ) ≤ q + 1 := by
  rcases Int.le_total 0 (roundHalfEven q) with hpos | hneg
  · have hcast : ((roundHalfEven q).toNat : ℚ) = roundHalfEven q := by
      exact_mod_cast Int.toNat_of_nonneg hpos
    rw [hcast]
    exact roundHalfEven_le q
  · rw [Int.toNat_of_nonpos hneg, Nat.cast_zero]
    linarith

theorem lastPlace_le {n : ℕ} (h : n < 2 ^ 64) : lastPlace n ≤ 11 := by
  have hbits : n.log2 < 64 := by
    by_cases hzero : n = 0
    · rw [hzero]
      decide
    · exact (Nat.log2_lt hzero).mpr h
  have hden : (1 : ℕ).log2 = 0 := by decide
  unfold lastPlace
  simp only [Rat.num_natCast, Rat.den_natCast, Int.natAbs_natCast, hden]
  split <;> omega

theorem nearest_value_le (n : ℕ) : (nearest n).value ≤ n + 2 ^ lastPlace n := by
  have hunit : (0 : ℚ) < 2 ^ lastPlace n := zpow_pos (by norm_num) _
  have hn : (0 : ℚ) ≤ n := Nat.cast_nonneg n
  unfold nearest
  split
  · unfold zero value
    rw [Nat.cast_zero, zero_mul]
    linarith
  · have hrounded := toNat_roundHalfEven_le
      (mul_nonneg hn (zpow_nonneg (by norm_num) (-lastPlace n) : (0 : ℚ) ≤ 2 ^ (-lastPlace n)))
    have hvalue : ((roundHalfEven (n * 2 ^ (-lastPlace n))).toNat : ℚ) * 2 ^ lastPlace n ≤
        n + 2 ^ lastPlace n := by
      have hle := mul_le_mul_of_nonneg_right hrounded hunit.le
      rwa [add_mul, mul_assoc, ← zpow_add₀ (by norm_num), neg_add_cancel, zpow_zero, mul_one,
        one_mul] at hle
    simp only
    split
    · next hcarry =>
        have hdouble : (mantissaLimit : ℚ) = leastNormal * 2 := by
          norm_num [mantissaLimit, leastNormal]
        rw [hcarry, hdouble, mul_assoc, ← zpow_one_add₀ (by norm_num), add_comm] at hvalue
        exact hvalue
    · exact hvalue

theorem nearest_value_lt {n : ℕ} (h : n < 2 ^ 64) : (nearest n).value < Decimal.limit := by
  have hplace : (2 : ℚ) ^ lastPlace n ≤ 2 ^ (11 : ℤ) :=
    zpow_le_zpow_right₀ (by norm_num) (lastPlace_le h)
  have hn : (n : ℚ) < 2 ^ 64 := by
    exact_mod_cast h
  calc (nearest n).value ≤ n + 2 ^ lastPlace n := nearest_value_le n
    _ < 2 ^ 64 + 2 ^ (11 : ℤ) := add_lt_add_of_lt_of_le hn hplace
    _ < Decimal.limit := by norm_num [Decimal.limit]

end Binary

/-!
# Values

A number is a sign and a magnitude, and so is its decimal.
-/

namespace Number

/-- The integer or the finite double that the number holds. -/
def value : Number → ℚ
  | integer n _ => n
  | float x => x.toRat

def isNegative : Number → Bool
  | integer n _ => n < 0
  | float x => x.negative

def magnitude : Number → Dyadic
  | integer n _ => ⟨n.natAbs, 0⟩
  | float x => x.magnitude.dyadic

def signed (negative : Bool) (q : ℚ) : ℚ :=
  if negative then -q else q

theorem signed_natAbs (n : ℤ) : signed (n < 0) n.natAbs = n := by
  unfold signed
  rw [Nat.cast_natAbs]
  by_cases hneg : n < 0
  · rw [if_pos (decide_eq_true hneg), abs_of_neg hneg, Int.cast_neg, neg_neg]
  · rw [if_neg (by simpa using hneg), abs_of_nonneg (Int.not_lt.mp hneg)]

theorem abs_signed (negative : Bool) (q : ℚ) : |signed negative q| = |q| := by
  cases negative with
  | false =>
      rfl
  | true =>
      exact abs_neg q

theorem signed_sub (negative : Bool) (p q : ℚ) :
    signed negative p - signed negative q = signed negative (p - q) := by
  cases negative with
  | false =>
      rfl
  | true =>
      show -p - -q = -(p - q)
      ring

theorem value_eq (a : Number) : a.value = signed a.isNegative a.magnitude.value := by
  cases a with
  | integer n fits =>
      have hwhole : (magnitude (.integer n fits)).value = n.natAbs := Dyadic.value_whole _
      rw [hwhole]
      exact (signed_natAbs n).symm
  | float x =>
      have hmagnitude : (magnitude (.float x)).value = x.magnitude.value :=
        x.magnitude.dyadic_value
      rw [hmagnitude]
      rfl

theorem abs_value (a : Number) : |a.value| = a.magnitude.value := by
  rw [value_eq, abs_signed, abs_of_nonneg a.magnitude.value_nonneg]

theorem magnitude_narrow (a : Number) : a.magnitude.Narrow := by
  cases a with
  | integer n fits =>
      exact Or.inl rfl
  | float x =>
      exact Binary.dyadic_narrow x.isDouble

/-!
# Decimals
-/

/-- A number has a decimal exactly if it is below the limit. -/
theorem decimal?_cases (a : Number) :
    a.decimal? = some (signed a.isNegative a.magnitude.decimal) ∧ |a.value| < Decimal.limit ∨
      a.decimal? = none ∧ Decimal.limit ≤ |a.value| := by
  rw [abs_value]
  cases a with
  | integer n fits =>
      have hwhole : (magnitude (.integer n fits)).value = n.natAbs := Dyadic.value_whole _
      have hdecimal : (magnitude (.integer n fits)).decimal = n.natAbs := Dyadic.decimal_whole _
      have hsmall : n.natAbs < Decimal.limit := by
        unfold Fits at fits
        unfold Decimal.limit
        omega
      rw [hwhole, hdecimal]
      exact Or.inl ⟨congrArg some (signed_natAbs n).symm, by exact_mod_cast hsmall⟩
  | float x =>
      have hmagnitude : (magnitude (.float x)).value = x.magnitude.value :=
        x.magnitude.dyadic_value
      have hdecimal : (Number.float x).decimal? =
          (Decimal.ofBinary? x.magnitude).map fun d => signed x.negative d.value := rfl
      rw [hmagnitude, hdecimal]
      rcases Binary.ofBinary?_cases x.isDouble with ⟨⟨d, hd, hvalue⟩, hlt⟩ | ⟨hnone, hle⟩
      · rw [hd, Option.map_some, hvalue]
        exact Or.inl ⟨rfl, hlt⟩
      · rw [hnone]
        exact Or.inr ⟨rfl, hle⟩

theorem decimal?_eq_some {a : Number} {d : ℚ} (h : a.decimal? = some d) :
    d = signed a.isNegative a.magnitude.decimal := by
  rcases a.decimal?_cases with ⟨hsome, -⟩ | ⟨hnone, -⟩
  · exact Option.some.inj (h.symm.trans hsome)
  · rw [hnone] at h
    cases h

theorem signed_decimal_mono {s t : Bool} {x y : Dyadic} (hx : x.Narrow) (hy : y.Narrow)
    (h : signed s x.value ≤ signed t y.value) : signed s x.decimal ≤ signed t y.decimal := by
  have hxpos := x.value_nonneg
  have hypos := y.value_nonneg
  have hxdecimal := Dyadic.decimal_nonneg hx
  have hydecimal := Dyadic.decimal_nonneg hy
  cases s with
  | false =>
      cases t with
      | false =>
          exact Dyadic.decimal_mono hx hy h
      | true =>
          have hle : x.value ≤ -y.value := h
          show x.decimal ≤ -y.decimal
          rw [Dyadic.decimal_of_zero (by linarith : x.value = 0),
            Dyadic.decimal_of_zero (by linarith : y.value = 0), neg_zero]
  | true =>
      cases t with
      | false =>
          show -x.decimal ≤ y.decimal
          linarith
      | true =>
          exact neg_le_neg (Dyadic.decimal_mono hy hx (neg_le_neg_iff.mp h))

theorem decimal?_mono {a b : Number} {c d : ℚ} (ha : a.decimal? = some c)
    (hb : b.decimal? = some d) (h : a.value ≤ b.value) : c ≤ d := by
  rw [value_eq, value_eq] at h
  rw [decimal?_eq_some ha, decimal?_eq_some hb]
  exact signed_decimal_mono a.magnitude_narrow b.magnitude_narrow h

theorem decimal?_near {a : Number} {d : ℚ} (h : a.decimal? = some d) :
    |d - a.value| ≤ |a.value| / 2 ^ 48 + 2 / 10 ^ 28 := by
  rw [decimal?_eq_some h, abs_value, value_eq, signed_sub, abs_signed]
  exact Dyadic.decimal_near a.magnitude_narrow

/-!
# Doubles of numbers
-/

theorem asDouble_of_large {a : Number} (h : Decimal.limit ≤ |a.value|) : a.asDouble = a.value := by
  cases a with
  | integer n fits =>
      have hdecimal : (Number.integer n fits).decimal? = some (n : ℚ) := rfl
      rcases (Number.integer n fits).decimal?_cases with ⟨-, hlt⟩ | ⟨hnone, -⟩
      · exact absurd h (not_le.mpr hlt)
      · rw [hnone] at hdecimal
        cases hdecimal
  | float x =>
      rfl

theorem abs_asDouble_lt {a : Number} (h : |a.value| < Decimal.limit) :
    |a.asDouble| < Decimal.limit := by
  cases a with
  | integer n fits =>
      have hsmall : n.natAbs < 2 ^ 64 := by
        unfold Fits at fits
        omega
      have hsigned : (Number.integer n fits).asDouble =
          signed (n < 0) (Binary.nearest n.natAbs).value := by
        unfold asDouble signed
        simp
      rw [hsigned, abs_signed, abs_of_nonneg (Binary.value_nonneg _)]
      exact Binary.nearest_value_lt hsmall
  | float x =>
      exact h

/-!
# Order
-/

theorem compare_of_some {a b : Number} {c d : ℚ} (ha : a.decimal? = some c)
    (hb : b.decimal? = some d) : a.compare b = cmp c d := by
  rw [compare, ha, hb, cmp_eq_compareOfLessAndEq]

theorem compare_of_none {a b : Number} (h : a.decimal? = none ∨ b.decimal? = none) :
    a.compare b = cmp a.asDouble b.asDouble := by
  rw [cmp_eq_compareOfLessAndEq]
  unfold compare
  rcases h with ha | hb
  · rw [ha]
  · rw [hb]
    cases a.decimal? <;> rfl

/-- What is below the limit may move below it and keeps its side of what is not. -/
theorem cmp_of_large {limit x y z : ℚ} (hx : limit ≤ |x|) (hy : |y| < limit)
    (hz : |z| < limit) : cmp x y = cmp x z := by
  have hy := abs_lt.mp hy
  have hz := abs_lt.mp hz
  rcases le_abs.mp hx with hpos | hneg
  · rw [(by linarith : y < x).cmp_eq_gt, (by linarith : z < x).cmp_eq_gt]
  · rw [(by linarith : x < y).cmp_eq_lt, (by linarith : x < z).cmp_eq_lt]

/-- Numbers of which one has no decimal are compared as their values are. -/
theorem compare_of_large {a b : Number} (h : a.decimal? = none ∨ b.decimal? = none) :
    a.compare b = cmp a.value b.value := by
  rw [compare_of_none h]
  rcases a.decimal?_cases with ⟨ha, hasmall⟩ | ⟨ha, halarge⟩
  · rcases b.decimal?_cases with ⟨hb, -⟩ | ⟨hb, hblarge⟩
    · rw [ha, hb] at h
      rcases h with h | h <;> cases h
    · rw [asDouble_of_large hblarge, cmp_eq_cmp_symm]
      exact cmp_of_large hblarge (abs_asDouble_lt hasmall) hasmall
  · rw [asDouble_of_large halarge]
    rcases b.decimal?_cases with ⟨-, hbsmall⟩ | ⟨-, hblarge⟩
    · exact cmp_of_large halarge (abs_asDouble_lt hbsmall) hbsmall
    · rw [asDouble_of_large hblarge]

/-- Two values that settle on one decimal. -/
def Confused (a b : Number) : Prop :=
  a.value ≠ b.value ∧ ∃ d, a.decimal? = some d ∧ b.decimal? = some d

theorem compare_of_confused {a b : Number} (h : a.Confused b) : a.compare b = .eq := by
  rcases h with ⟨-, d, ha, hb⟩
  rw [compare_of_some ha hb, cmp_self_eq_eq]

theorem compare_of_not_confused {a b : Number} (h : ¬a.Confused b) :
    a.compare b = cmp a.value b.value := by
  cases ha : a.decimal? with
  | none =>
      exact compare_of_large (Or.inl ha)
  | some c =>
      cases hb : b.decimal? with
      | none =>
          exact compare_of_large (Or.inr hb)
      | some d =>
          have hdistinct : a.value ≠ b.value → c ≠ d := by
            intro hvalue heq
            rw [← heq] at hb
            exact h ⟨hvalue, c, ha, hb⟩
          rw [compare_of_some ha hb]
          rcases lt_trichotomy a.value b.value with hlt | heq | hgt
          · have hdecimal := lt_of_le_of_ne (decimal?_mono ha hb hlt.le) (hdistinct hlt.ne)
            rw [hdecimal.cmp_eq_lt, hlt.cmp_eq_lt]
          · have hdecimal := le_antisymm (decimal?_mono ha hb heq.le) (decimal?_mono hb ha heq.ge)
            rw [hdecimal.cmp_eq_eq, heq.cmp_eq_eq]
          · have hdecimal := lt_of_le_of_ne (decimal?_mono hb ha hgt.le) (hdistinct hgt.ne').symm
            rw [hdecimal.cmp_eq_gt, hgt.cmp_eq_gt]

theorem compare_eq_cmp_iff (a b : Number) :
    a.compare b = cmp a.value b.value ↔ ¬a.Confused b := by
  constructor
  · intro hcompare hconfused
    rw [compare_of_confused hconfused] at hcompare
    exact hconfused.1 ((cmp_eq_eq_iff _ _).mp hcompare.symm)
  · exact compare_of_not_confused

/-- Numbers are only confused with others next to them. -/
theorem Confused.near {a b : Number} (h : a.Confused b) :
    |a.value - b.value| ≤ (|a.value| + |b.value|) / 2 ^ 48 + 4 / 10 ^ 28 := by
  rcases h with ⟨-, d, ha, hb⟩
  have hanear := abs_le.mp (decimal?_near ha)
  have hbnear := abs_le.mp (decimal?_near hb)
  rw [abs_le]
  constructor <;> linarith

/-- Whole numbers, and those whose digits fit into the precision of the decimals. -/
def Short (a : Number) : Prop :=
  ∃ c k : ℕ, |a.value| = c / 10 ^ k ∧ (k = 0 ∨ c < Binary.leastNormal)

theorem decimal?_of_short {a : Number} {d : ℚ} (h : a.Short) (hd : a.decimal? = some d) :
    d = a.value := by
  rcases h with ⟨c, k, hvalue, hshort⟩
  rw [abs_value] at hvalue
  rw [decimal?_eq_some hd, Dyadic.decimal_of_short hvalue hshort, value_eq]

theorem not_confused_of_short {a b : Number} (ha : a.Short) (hb : b.Short) : ¬a.Confused b := by
  intro hconfused
  rcases hconfused with ⟨hvalue, d, had, hbd⟩
  exact hvalue ((decimal?_of_short ha had).symm.trans (decimal?_of_short hb hbd))

theorem short_integer (n : ℤ) (fits : Fits n) : Short (.integer n fits) := by
  refine ⟨n.natAbs, 0, ?_, Or.inl rfl⟩
  rw [pow_zero, div_one, Nat.cast_natAbs, Int.cast_abs]
  rfl

end Number

end RecordFilter
