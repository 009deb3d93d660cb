import Mathlib.Data.List.TakeWhile
import RecordFilter.Number.Numeral

/-!
# Integers read back

An integer is written without leading zeros, in digits that all fit into the significand.  So
reading takes up the whole text and finds the same integer.
-/

namespace RecordFilter
namespace Numeral

/-!
# Decimal digits
-/

theorem isDigit_of_mem {n : Nat} {c : Char} (h : c ∈ Nat.toDigits 10 n) : c.isDigit = true :=
  Nat.isDigit_of_mem_toDigits (by omega) (by omega) h

theorem head_toDigits {n : Nat} (hpos : 0 < n) :
    ∃ c rest, Nat.toDigits 10 n = c :: rest ∧ c ≠ '0' := by
  induction n using Nat.strongRecOn with
  | ind n ih =>
      rw [Nat.toDigits_eq_if (by omega)]
      split
      · refine ⟨n.digitChar, [], rfl, ?_⟩
        intro h
        have hzero := Nat.digitChar_eq_zero.mp h
        omega
      · rcases ih (n / 10) (by omega) (by omega) with ⟨c, rest, hdigits, hc⟩
        rw [hdigits]
        exact ⟨c, rest ++ [(n % 10).digitChar], rfl, hc⟩

theorem digitChar_digitValue {c : Char} (h : c.isDigit = true) :
    digitValue c < 10 ∧ (digitValue c).digitChar = c := by
  have hbounds : 48 ≤ c.toNat ∧ c.toNat ≤ 57 := by
    rw [Char.isDigit, Bool.and_eq_true, decide_eq_true_eq, decide_eq_true_eq] at h
    exact h
  have hvalue : digitValue c = c.toNat - 48 := rfl
  have hlt : digitValue c < 10 := by omega
  refine ⟨hlt, Char.toNat_inj.mp ?_⟩
  rw [Nat.toNat_digitChar_of_lt_ten hlt]
  omega

/-- Digits behind a positive number continue its text. -/
theorem toDigits_ofDigitChars {n : Nat} (hpos : 0 < n) {digits : List Char}
    (h : ∀ c ∈ digits, c.isDigit = true) :
    Nat.toDigits 10 (Nat.ofDigitChars 10 digits n) = Nat.toDigits 10 n ++ digits := by
  induction digits generalizing n with
  | nil =>
      rw [Nat.ofDigitChars_nil, List.append_nil]
  | cons c digits ih =>
      rw [List.forall_mem_cons] at h
      rcases digitChar_digitValue h.1 with ⟨hlt, hc⟩
      have hstep : Nat.ofDigitChars 10 (c :: digits) n =
          Nat.ofDigitChars 10 digits (10 * n + digitValue c) := rfl
      have hdigit : Nat.toDigits 10 (digitValue c) = [c] := by
        rw [Nat.toDigits_of_lt_base hlt, hc]
      rw [hstep, ih (by omega) h.2, ← Nat.toDigits_append_toDigits (by omega) hpos hlt, hdigit,
        List.append_assoc, List.singleton_append]

/-- A number is written as the digits that it is read from, if these do not start with a zero. -/
theorem toDigits_digitsValue {c : Char} {rest : List Char} (hzero : c ≠ '0')
    (h : ∀ d ∈ c :: rest, d.isDigit = true) :
    Nat.toDigits 10 (digitsValue (c :: rest)) = c :: rest := by
  rw [List.forall_mem_cons] at h
  rcases digitChar_digitValue h.1 with ⟨hlt, hc⟩
  have hpos : 0 < digitValue c := by
    apply Nat.pos_of_ne_zero
    intro hvalue
    rw [hvalue] at hc
    exact hzero hc.symm
  have hvalue : digitsValue (c :: rest) = Nat.ofDigitChars 10 rest (digitValue c) := by
    show Nat.ofDigitChars 10 rest (10 * 0 + digitValue c) = _
    rw [Nat.mul_zero, Nat.zero_add]
  rw [hvalue, toDigits_ofDigitChars hpos h.2, Nat.toDigits_of_lt_base hlt, hc,
    List.singleton_append]

theorem digitsValue_toDigits (n : Nat) : digitsValue (Nat.toDigits 10 n) = n :=
  Nat.ofDigitChars_ten_toDigits

theorem readWhole_toDigits (n : Nat) :
    readWhole (Nat.toDigits 10 n) = .ok (Nat.toDigits 10 n, []) := by
  have htake : (Nat.toDigits 10 n).takeWhile Char.isDigit = Nat.toDigits 10 n :=
    List.takeWhile_eq_self_iff.mpr fun _ => isDigit_of_mem
  have hdrop : (Nat.toDigits 10 n).dropWhile Char.isDigit = [] :=
    List.dropWhile_eq_nil_iff.mpr fun _ => isDigit_of_mem
  unfold readWhole
  rw [htake, hdrop]
  by_cases hzero : n = 0
  · rw [hzero]
    rfl
  · rcases head_toDigits (Nat.pos_of_ne_zero hzero) with ⟨c, rest, hdigits, hc⟩
    rw [hdigits]
    simp [hc]

theorem readUnsigned_toDigits (negative : Bool) (n : Nat) :
    readUnsigned negative (Nat.toDigits 10 n) =
      .ok (⟨negative, Nat.toDigits 10 n, none, none⟩, []) := by
  rw [readUnsigned, readWhole_toDigits]
  rfl

/-!
# The significand
-/

theorem init_le_ofDigitChars (digits : List Char) (significand : Nat) :
    significand ≤ Nat.ofDigitChars 10 digits significand := by
  induction digits generalizing significand with
  | nil =>
      exact Nat.le_refl significand
  | cons c rest ih =>
      have hrest := ih (10 * significand + digitValue c)
      exact Nat.le_trans (by omega) hrest

/-- What fits in the end has fitted all along. -/
theorem gather_of_fits {digits : List Char} {significand : Nat}
    (h : Nat.ofDigitChars 10 digits significand < significandLimit) :
    gather significand digits = (Nat.ofDigitChars 10 digits significand, []) := by
  induction digits generalizing significand with
  | nil =>
      rfl
  | cons c rest ih =>
      have hstep : Nat.ofDigitChars 10 (c :: rest) significand =
          Nat.ofDigitChars 10 rest (10 * significand + digitValue c) := rfl
      rw [hstep] at h ⊢
      have hfits := Nat.lt_of_le_of_lt (init_le_ofDigitChars rest _) h
      rw [gather, if_pos hfits, ih h]

theorem number?_toDigits {negative : Bool} {n : Nat} (h : n < significandLimit) :
    number? ⟨negative, Nat.toDigits 10 n, none, none⟩ = whole? negative n := by
  have hvalue : Nat.ofDigitChars 10 (Nat.toDigits 10 n) 0 = n := Nat.ofDigitChars_ten_toDigits
  have hgather : gather 0 (Nat.toDigits 10 n) = (n, []) := by
    rw [gather_of_fits (by rw [hvalue]; exact h), hvalue]
  unfold number?
  rw [hgather]
  rfl

theorem whole?_natAbs {n : Int} (h : Number.Fits n) :
    whole? (decide (n < 0)) n.natAbs = some (.integer n h) := by
  have hvalue : (if decide (n < 0) = true then -(n.natAbs : Int) else n.natAbs) = n := by
    split
    · next hnegative =>
        have hlt := of_decide_eq_true hnegative
        omega
    · next hnegative =>
        have hge : ¬n < 0 := fun hlt => hnegative (decide_eq_true hlt)
        omega
  have hzero : ¬(decide (n < 0) = true ∧ n.natAbs = 0) := by
    intro hzero
    have hlt := of_decide_eq_true hzero.1
    omega
  unfold whole?
  simp only [hvalue]
  rw [dif_pos ⟨h, hzero⟩]

end Numeral

/-!
# Integers
-/

namespace Number

theorem natAbs_lt_significandLimit {n : Int} (h : Fits n) :
    n.natAbs < Numeral.significandLimit := by
  unfold Fits at h
  unfold Numeral.significandLimit
  omega

theorem numeral_read_integerText (n : Int) :
    Numeral.read (integerText n) =
      .ok (⟨decide (n < 0), Nat.toDigits 10 n.natAbs, none, none⟩, []) := by
  unfold integerText
  split
  · next hnegative =>
      rw [decide_eq_true hnegative]
      exact Numeral.readUnsigned_toDigits true n.natAbs
  · next hnegative =>
      rw [decide_eq_false hnegative, ← Numeral.readUnsigned_toDigits false n.natAbs]
      unfold Numeral.read
      split
      · next rest hdigits =>
          have hsign : '-' ∈ Nat.toDigits 10 n.natAbs := by
            rw [hdigits]
            exact List.mem_cons_self
          exact absurd (Numeral.isDigit_of_mem hsign) (by decide)
      · rfl

theorem read_of_numeral {text rest : List Char} {numeral : Numeral} {n : Number}
    (hread : Numeral.read text = .ok (numeral, rest)) (hnumber : numeral.number? = some n) :
    read text = .ok (n, rest) := by
  unfold read
  rw [hread]
  simp only [bind, Except.bind, hnumber]
  rfl

theorem read_integerText {n : Int} (h : Fits n) :
    read (integerText n) = .ok (.integer n h, []) := by
  apply read_of_numeral (numeral_read_integerText n)
  rw [Numeral.number?_toDigits (natAbs_lt_significandLimit h), Numeral.whole?_natAbs h]

end Number
end RecordFilter
