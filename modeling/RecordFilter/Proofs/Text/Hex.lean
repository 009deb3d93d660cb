import Mathlib.Data.List.Forall2
import RecordFilter.Text.Hex

/-!
# Hexadecimal digits and numerals

What has been written is read back, and what is read is a numeral of the sixteen digits, in either
case, with the value that the places of its digits give it.
-/

namespace RecordFilter
namespace Text

/-!
# Reading back what was written
-/

theorem hexDigit?_upperHexDigit {n : Nat} (h : n < 16) : hexDigit? (upperHexDigit n) = some n := by
  have hall : ∀ m < 16, hexDigit? (upperHexDigit m) = some m := by decide
  exact hall n h

theorem hexDigit?_lowerHexDigit {n : Nat} (h : n < 16) : hexDigit? (lowerHexDigit n) = some n := by
  have hall : ∀ m < 16, hexDigit? (lowerHexDigit m) = some m := by decide
  exact hall n h

theorem hexDigit?_plus : hexDigit? '+' = none := rfl

/-- Four digits are enough for a code point below two to the 16th power. -/
theorem readHex?_fourHexDigits {point : Nat} (h : point < 0x10000) :
    readHex? (fourHexDigits point) = some point := by
  have hdigit : ∀ n, hexDigit? (lowerHexDigit (n % 16)) = some (n % 16) :=
    fun n => hexDigit?_lowerHexDigit (Nat.mod_lt n (by decide))
  simp only [readHex?, fourHexDigits, List.foldlM_cons, List.foldlM_nil, hdigit, Option.map_some,
    Option.bind_eq_bind, Option.bind_some, Option.pure_def, Option.some.injEq]
  omega

theorem scalar?_toNat (c : Char) : scalar? c.toNat = some c := by
  have hvalid : c.toNat.isValidChar := c.valid
  rw [scalar?, if_pos hvalid, Char.ofNat_toNat]

theorem scalar?_eq_some_iff {point : Nat} {c : Char} :
    scalar? point = some c ↔ c.toNat = point := by
  constructor
  · intro h
    unfold scalar? at h
    split at h
    · next hvalid =>
        cases h
        rw [Char.ofNat, dif_pos hvalid]
        rfl
    · cases h
  · rintro rfl
    exact scalar?_toNat c

/-!
# Digits

The reader computes the value of a digit from its code point, once for each of three runs of
characters.  A digit is described here by its place among the sixteen.
-/

def lowerDigits : List Char :=
  ['0', '1', '2', '3', '4', '5', '6', '7', '8', '9', 'a', 'b', 'c', 'd', 'e', 'f']

def upperDigits : List Char :=
  ['0', '1', '2', '3', '4', '5', '6', '7', '8', '9', 'A', 'B', 'C', 'D', 'E', 'F']

def HexDigit (c : Char) (value : Nat) : Prop :=
  lowerDigits[value]? = some c ∨ upperDigits[value]? = some c

theorem hexDigit?_of_getElem? {digits : List Char}
    (hdigits : ∀ place < digits.length, digits[place]?.bind hexDigit? = some place) {c : Char}
    {value : Nat} (h : digits[value]? = some c) : hexDigit? c = some value := by
  have hplace := hdigits value (List.getElem?_eq_some_iff.mp h).1
  rwa [h] at hplace

/-- A run of digits whose code points follow each other. -/
theorem getElem?_of_between {digits : List Char} {first last c : Char} {start : Nat}
    (hrun : ∀ i < last.toNat + 1 - first.toNat,
      digits[start + i]? = some (Char.ofNat (first.toNat + i)))
    (hfirst : first ≤ c) (hlast : c ≤ last) :
    digits[start + (c.toNat - first.toNat)]? = some c := by
  have hfrom : first.toNat ≤ c.toNat := UInt32.le_iff_toNat_le.mp hfirst
  have hto : c.toNat ≤ last.toNat := UInt32.le_iff_toNat_le.mp hlast
  have hplace := hrun (c.toNat - first.toNat) (by omega)
  rwa [Nat.add_sub_cancel' hfrom, Char.ofNat_toNat] at hplace

theorem hexDigit_of_hexDigit? {c : Char} {value : Nat} (h : hexDigit? c = some value) :
    HexDigit c value := by
  unfold hexDigit? at h
  split at h
  · next hc =>
      cases h
      rw [Char.isDigit, Bool.and_eq_true, decide_eq_true_eq, decide_eq_true_eq] at hc
      refine Or.inl ?_
      rw [← Nat.zero_add (c.toNat - '0'.toNat)]
      exact getElem?_of_between (by decide) hc.1 hc.2
  · split at h
    · next hc =>
        cases h
        refine Or.inl ?_
        rw [Nat.add_comm]
        exact getElem?_of_between (by decide) hc.1 hc.2
    · split at h
      · next hc =>
          cases h
          refine Or.inr ?_
          rw [Nat.add_comm]
          exact getElem?_of_between (by decide) hc.1 hc.2
      · cases h

theorem hexDigit?_eq_some_iff {c : Char} {value : Nat} :
    hexDigit? c = some value ↔ HexDigit c value := by
  constructor
  · exact hexDigit_of_hexDigit?
  · intro h
    rcases h with h | h
    · exact hexDigit?_of_getElem? (by decide) h
    · exact hexDigit?_of_getElem? (by decide) h

theorem not_hexDigit_plus (value : Nat) : ¬ HexDigit '+' value := by
  intro h
  have hread := hexDigit?_eq_some_iff.mpr h
  rw [hexDigit?_plus] at hread
  cases hread

/-!
# Numerals
-/

def HexNumeral (digits : List Char) (value : Nat) : Prop :=
  ∃ values, List.Forall₂ HexDigit digits values ∧ values.foldl (16 * · + ·) 0 = value

/-- By induction on the digits, from the value that those in front of them have. -/
theorem foldlM_hexDigit?_eq_some_iff {digits : List Char} {start value : Nat} :
    digits.foldlM (fun value c => (hexDigit? c).map (16 * value + ·)) start = some value ↔
      ∃ values, List.Forall₂ HexDigit digits values ∧
        values.foldl (16 * · + ·) start = value := by
  induction digits generalizing start with
  | nil =>
      simp
  | cons c digits ih =>
      rw [List.foldlM_cons]
      constructor
      · intro h
        rcases Option.bind_eq_some_iff.mp h with ⟨next, hnext, hrest⟩
        rcases Option.map_eq_some_iff.mp hnext with ⟨digit, hdigit, rfl⟩
        rcases ih.mp hrest with ⟨values, hvalues, hvalue⟩
        exact ⟨digit :: values, .cons (hexDigit?_eq_some_iff.mp hdigit) hvalues, hvalue⟩
      · rintro ⟨values, hvalues, hvalue⟩
        cases hvalues with
        | cons hdigit hrest =>
            refine Option.bind_eq_some_iff.mpr ⟨_, ?_, ih.mpr ⟨_, hrest, hvalue⟩⟩
            rw [hexDigit?_eq_some_iff.mpr hdigit]
            rfl

theorem readHex?_eq_some_iff {digits : List Char} {value : Nat} :
    readHex? digits = some value ↔ HexNumeral digits value :=
  foldlM_hexDigit?_eq_some_iff

theorem not_hexNumeral_plus (digits : List Char) (value : Nat) :
    ¬ HexNumeral ('+' :: digits) value := by
  rintro ⟨values, hvalues, _⟩
  cases hvalues with
  | cons hdigit _ =>
      exact not_hexDigit_plus _ hdigit

end Text
end RecordFilter
