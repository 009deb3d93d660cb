import RecordFilter.Proofs.Text.CodePointSet
import RecordFilter.Proofs.Text.Runs
import RecordFilter.Query.Lexer

/-!
# Characters between tokens

A delimiter belongs to no word, no number and no target.  So the text behind a delimiter, and the
delimiter itself, have no part in reading what stands in front of it.
-/

namespace RecordFilter
namespace Query

/-!
# Blanks and other delimiters
-/

/-- The code points of the white space characters. -/
def blankPoints : List Nat :=
  [0x9, 0xa, 0xb, 0xc, 0xd, 0x20, 0x85, 0xa0, 0x1680, 0x2000, 0x2001, 0x2002, 0x2003, 0x2004,
    0x2005, 0x2006, 0x2007, 0x2008, 0x2009, 0x200a, 0x2028, 0x2029, 0x202f, 0x205f, 0x3000]

def delimiters : List Char :=
  blankPoints.map Char.ofNat ++ ['(', ')', '[', ']', ',']

theorem mem_blankPoints {c : Char} (h : Text.isBlank c = true) : c.toNat ∈ blankPoints := by
  simp only [Text.isBlank, Text.CodePointSet.contains, Text.CodePointSet.blank,
    Text.CodePointSet.holds, Bool.and_eq_true, Bool.not_eq_true', decide_eq_true_eq,
    Bool.and_eq_false_iff, decide_eq_false_iff_not, Bool.not_eq_false', Bool.false_eq_true,
    or_false] at h
  simp only [blankPoints, List.mem_cons, List.not_mem_nil, or_false]
  omega

theorem mem_delimiters {c : Char} (h : isDelimiter c = true) : c ∈ delimiters := by
  simp only [isDelimiter, Bool.or_eq_true, beq_iff_eq] at h
  rcases h with ((((h | rfl) | rfl) | rfl) | rfl) | rfl
  · apply List.mem_append.mpr
    apply Or.inl
    rw [← Char.ofNat_toNat c]
    exact List.mem_map_of_mem (mem_blankPoints h)
  all_goals simp [delimiters]

/-- The characters that may belong to a number, a sign only where it is allowed. -/
def isNumberPart (signAllowed : Bool) (c : Char) : Bool :=
  c.isDigit || c == '.' || isExponentMark c || (signAllowed && (c == '+' || c == '-'))

/-- Checked one after the other, since there are only so many delimiters. -/
theorem delimiters_apart :
    (delimiters.all fun c => !Text.CodePointSet.letter.contains c &&
      !Text.CodePointSet.numeral.contains c && c != '_' && !isNumberPart true c &&
      !isNumberPart false c) = true := by
  simp only [Text.CodePointSet.contains_eq_walk]
  decide +kernel

theorem not_isWordPart_of_mem {c : Char} (h : c ∈ delimiters) : Text.isWordPart c = false := by
  have hc := List.all_eq_true.mp delimiters_apart c h
  simp only [Bool.and_eq_true, Bool.not_eq_true', bne_iff_ne] at hc
  simp [Text.isWordPart, Text.isLetter, Text.isNumeral, hc]

theorem not_isNumberPart_of_mem {c : Char} (h : c ∈ delimiters) (signAllowed : Bool) :
    isNumberPart signAllowed c = false := by
  have hc := List.all_eq_true.mp delimiters_apart c h
  simp only [Bool.and_eq_true, Bool.not_eq_true', bne_iff_ne] at hc
  cases signAllowed with
  | false =>
      exact hc.2
  | true =>
      exact hc.1.2

theorem isNumberPart_of_isDigit {c : Char} (h : c.isDigit = true) (signAllowed : Bool) :
    isNumberPart signAllowed c = true := by
  unfold isNumberPart
  rw [h, Bool.true_or, Bool.true_or, Bool.true_or]

theorem isDelimiter_of_isBlank {c : Char} (h : Text.isBlank c = true) : isDelimiter c = true := by
  simp only [isDelimiter, h, Bool.true_or]

theorem not_isBlank_of_not_isDelimiter {c : Char} (h : isDelimiter c = false) :
    Text.isBlank c = false := by
  apply Bool.eq_false_iff.mpr
  intro hblank
  rw [isDelimiter_of_isBlank hblank] at h
  cases h

theorem not_isBlank_of_isWordPart {c : Char} (h : Text.isWordPart c = true) :
    Text.isBlank c = false := by
  apply Bool.eq_false_iff.mpr
  intro hblank
  rw [not_isWordPart_of_mem (mem_delimiters (isDelimiter_of_isBlank hblank))] at h
  cases h

theorem not_isBlank_of_isNumberPart {c : Char} {signAllowed : Bool}
    (h : isNumberPart signAllowed c = true) : Text.isBlank c = false := by
  apply Bool.eq_false_iff.mpr
  intro hblank
  rw [not_isNumberPart_of_mem (mem_delimiters (isDelimiter_of_isBlank hblank))] at h
  cases h

/-- The text behind a token, as far as the token needs it: empty, or with a delimiter in front. -/
def Seam (text : List Char) : Prop :=
  ∀ c ∈ text.head?, isDelimiter c = true

theorem seam_nil : Seam [] := by
  intro next hnext
  cases hnext

theorem seam_cons {c : Char} (h : isDelimiter c = true) (text : List Char) : Seam (c :: text) := by
  intro next hnext
  cases hnext
  exact h

theorem Seam.not_wordPart {text : List Char} (h : Seam text) :
    ∀ c ∈ text.head?, Text.isWordPart c = false :=
  fun c hc => not_isWordPart_of_mem (mem_delimiters (h c hc))

theorem Seam.not_numberPart {text : List Char} (h : Seam text) (signAllowed : Bool) :
    ∀ c ∈ text.head?, isNumberPart signAllowed c = false :=
  fun c hc => not_isNumberPart_of_mem (mem_delimiters (h c hc)) signAllowed

/-!
# Runs of characters
-/

/-- The slash that a target starts with belongs to the target. -/
theorem takeWhile_slash (text : List Char) :
    (('/' :: text).takeWhile fun c => !isDelimiter c) =
      '/' :: text.takeWhile fun c => !isDelimiter c := by
  have hslash : (!isDelimiter '/') = true := by decide
  exact List.takeWhile_cons_of_pos hslash

theorem numberRun_append {rest : List Char}
    (h : ∀ signAllowed, ∀ c ∈ rest.head?, isNumberPart signAllowed c = false)
    (signAllowed : Bool) (text : List Char) :
    numberRun signAllowed (text ++ rest) =
      ((numberRun signAllowed text).1, (numberRun signAllowed text).2 ++ rest) := by
  induction text generalizing signAllowed with
  | nil =>
      cases rest with
      | nil =>
          rfl
      | cons c rest =>
          have hc : isNumberPart signAllowed c = false := h signAllowed c rfl
          unfold isNumberPart at hc
          simp [numberRun, hc]
  | cons c text ih =>
      by_cases hc : isNumberPart signAllowed c = true
      · unfold isNumberPart at hc
        simp [numberRun, hc, ih]
      · unfold isNumberPart at hc
        simp [numberRun, hc]

theorem numberRun_cons {signAllowed : Bool} {c : Char} (h : isNumberPart signAllowed c = true)
    (rest : List Char) : numberRun signAllowed (c :: rest) =
      (c :: (numberRun (isExponentMark c) rest).1, (numberRun (isExponentMark c) rest).2) := by
  unfold isNumberPart at h
  simp only [numberRun, h, if_true]

theorem isNumberPart_of_mem {c : Char} {text : List Char} {signAllowed : Bool}
    (h : c ∈ (numberRun signAllowed text).1) : isNumberPart true c = true := by
  induction text generalizing signAllowed with
  | nil =>
      cases h
  | cons d text ih =>
      by_cases hd : isNumberPart signAllowed d = true
      · rw [numberRun_cons hd] at h
        rcases List.mem_cons.mp h with rfl | h
        · unfold isNumberPart at hd ⊢
          cases signAllowed with
          | false =>
              rw [Bool.false_and, Bool.or_false] at hd
              rw [hd, Bool.true_or]
          | true =>
              exact hd
        · exact ih h
      · unfold isNumberPart at hd
        simp only [numberRun, hd] at h
        cases h

/-- A run of a number can be cut off behind its last character. -/
theorem numberRun_cut (signAllowed : Bool) (text : List Char) :
    ∃ run rest, text = run ++ rest ∧ numberRun signAllowed text = (run, rest) ∧
      numberRun signAllowed run = (run, []) := by
  induction text generalizing signAllowed with
  | nil =>
      exact ⟨[], [], rfl, rfl, rfl⟩
  | cons c text ih =>
      by_cases hc : isNumberPart signAllowed c = true
      · rcases ih (isExponentMark c) with ⟨run, rest, rfl, htext, hrun⟩
        refine ⟨c :: run, rest, rfl, ?_, ?_⟩
        · rw [numberRun_cons hc, htext]
        · rw [numberRun_cons hc, hrun]
      · unfold isNumberPart at hc
        refine ⟨[], c :: text, rfl, ?_, rfl⟩
        simp only [numberRun, hc]
        rfl

end Query
end RecordFilter
