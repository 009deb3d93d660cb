import Mathlib.Data.List.TakeWhile
import RecordFilter.Proofs.Query.Delimiters
import RecordFilter.Proofs.Query.Reading
import RecordFilter.Proofs.Text.Quoted

/-!
# From a text to its tokens

Lexing is described as a relation between a text, the tokens at its front and the text behind
them.  Such pieces can be put together, and what has been read to its end can be read the same way
in front of a delimiter.
-/

namespace RecordFilter
namespace Query

open Text (isBlank)

/-!
# What a token leaves behind
-/

section Readers

variable {text rest left : List Char} {kind : TokenKind}

theorem readString_append (start : List Char) (h : readString start text = ⟨.ok kind, left⟩)
    (start' : List Char) : readString start' (text ++ rest) = ⟨.ok kind, left ++ rest⟩ := by
  unfold readString at h ⊢
  cases hscan : Text.Quoted.scan text with
  | closed content behind =>
      rw [hscan] at h
      rw [Text.Quoted.scan_append hscan rest]
      cases h
      rfl
  | unclosed =>
      rw [hscan] at h
      cases h
  | badEscape escaped place behind =>
      rw [hscan] at h
      cases h

theorem readNumber_of_ok {start run behind : List Char}
    (h : readNumber start run behind = ⟨.ok kind, left⟩) (start' behind' : List Char) :
    behind = left ∧ readNumber start' run behind' = ⟨.ok kind, behind'⟩ := by
  unfold readNumber at h ⊢
  split at h
  · next n hread =>
      cases h
      exact ⟨rfl, rfl⟩
  · cases h

theorem readSignedNumber_append (hrest : Seam rest) (start : List Char)
    (h : readSignedNumber start text = ⟨.ok kind, left⟩) (start' : List Char) :
    readSignedNumber start' (text ++ rest) = ⟨.ok kind, left ++ rest⟩ := by
  simp only [readSignedNumber] at h ⊢
  rw [numberRun_append hrest.not_numberPart]
  have hnumber := readNumber_of_ok h start' ((numberRun false text).2 ++ rest)
  rw [← hnumber.1]
  exact hnumber.2

theorem readUnsignedNumber_append (hrest : Seam rest)
    (h : readUnsignedNumber text = ⟨.ok kind, left⟩) :
    readUnsignedNumber (text ++ rest) = ⟨.ok kind, left ++ rest⟩ := by
  simp only [readUnsignedNumber] at h ⊢
  rw [numberRun_append hrest.not_numberPart]
  have hnumber := readNumber_of_ok h (text ++ rest) ((numberRun false text).2 ++ rest)
  rw [← hnumber.1]
  exact hnumber.2

theorem Seam.not_undelimited (hrest : Seam rest) : ∀ c ∈ rest.head?, (!isDelimiter c) = false := by
  intro c hc
  rw [hrest c hc]
  rfl

theorem readTarget_of_ok (h : readTarget text = ⟨.ok kind, left⟩) :
    ∃ target, targetOf (text.takeWhile fun c => !isDelimiter c) = .ok target ∧
      kind = .target target ∧ left = text.dropWhile fun c => !isDelimiter c := by
  simp only [readTarget] at h
  cases htarget : targetOf (text.takeWhile fun c => !isDelimiter c) with
  | ok target =>
      rw [htarget] at h
      cases h
      exact ⟨target, rfl, rfl, rfl⟩
  | error cause =>
      rw [htarget] at h
      cases h

theorem readTarget_append (hrest : Seam rest) (h : readTarget text = ⟨.ok kind, left⟩) :
    readTarget (text ++ rest) = ⟨.ok kind, left ++ rest⟩ := by
  rcases readTarget_of_ok h with ⟨target, htarget, rfl, rfl⟩
  simp only [readTarget]
  rw [Text.takeWhile_append_of_head hrest.not_undelimited,
    Text.dropWhile_append_of_head hrest.not_undelimited, htarget]

theorem readWord_append (hrest : Seam rest) (h : readWord text = ⟨.ok kind, left⟩) :
    readWord (text ++ rest) = ⟨.ok kind, left ++ rest⟩ := by
  unfold readWord at h ⊢
  rw [Text.takeWhile_append_of_head hrest.not_wordPart,
    Text.dropWhile_append_of_head hrest.not_wordPart]
  cases h
  rfl

end Readers

/-!
# The first character decides

Which reader is called depends on the first character alone.
-/

/-- The character that is read as a mark. -/
def TokenKind.mark? : TokenKind → Option Char
  | openGroup => some '('
  | closeGroup => some ')'
  | openArray => some '['
  | closeArray => some ']'
  | comma => some ','
  | _ => none

inductive TokenStart (c : Char) : Prop where
  | mark (kind : TokenKind) (hkind : kind.operand? = none) (hmark : kind.mark? = some c)
      (hread : ∀ rest, readToken c rest = ⟨.ok kind, rest⟩)
  | quote (hc : c = '"') (hread : ∀ rest, readToken c rest = readString (c :: rest) rest)
  | target (hc : c = '/') (hread : ∀ rest, readToken c rest = readTarget (c :: rest))
  | sign (hc : c = '-') (hread : ∀ rest, readToken c rest = readSignedNumber (c :: rest) rest)
  | digit (hc : c.isDigit = true)
      (hread : ∀ rest, readToken c rest = readUnsignedNumber (c :: rest))
  | word (hc : Text.isWordStart c = true)
      (hread : ∀ rest, readToken c rest = readWord (c :: rest))
  | other
      (hread : ∀ rest, readToken c rest =
        ⟨.error ⟨.unexpectedCharacter c, c :: rest⟩, c :: rest⟩)

theorem tokenStart (c : Char) : TokenStart c := by
  by_cases hopen : c = '('
  · exact .mark .openGroup rfl (congrArg some hopen.symm) fun _ => by simp [readToken, hopen]
  by_cases hclose : c = ')'
  · exact .mark .closeGroup rfl (congrArg some hclose.symm) fun _ => by simp [readToken, hclose]
  by_cases hopenArray : c = '['
  · exact .mark .openArray rfl (congrArg some hopenArray.symm) fun _ => by simp [readToken, hopenArray]
  by_cases hcloseArray : c = ']'
  · exact .mark .closeArray rfl (congrArg some hcloseArray.symm) fun _ => by simp [readToken, hcloseArray]
  by_cases hcomma : c = ','
  · exact .mark .comma rfl (congrArg some hcomma.symm) fun _ => by simp [readToken, hcomma]
  by_cases hquote : c = '"'
  · exact .quote hquote fun _ => by simp [readToken, hquote]
  by_cases hslash : c = '/'
  · exact .target hslash fun _ => by simp [readToken, hslash]
  by_cases hsign : c = '-'
  · exact .sign hsign fun _ => by simp [readToken, hsign]
  have hrest : ∀ rest, readToken c rest =
      if c.isDigit then readUnsignedNumber (c :: rest)
      else if Text.isWordStart c then readWord (c :: rest)
      else ⟨.error ⟨.unexpectedCharacter c, c :: rest⟩, c :: rest⟩ := by
    intro rest
    simp only [readToken, if_neg hopen, if_neg hclose, if_neg hopenArray, if_neg hcloseArray,
      if_neg hcomma, if_neg hquote, if_neg hslash, if_neg hsign]
  by_cases hdigit : c.isDigit = true
  · exact .digit hdigit fun rest => (hrest rest).trans (if_pos hdigit)
  by_cases hword : Text.isWordStart c = true
  · exact .word hword fun rest => (hrest rest).trans ((if_neg hdigit).trans (if_pos hword))
  · exact .other fun rest => (hrest rest).trans ((if_neg hdigit).trans (if_neg hword))

/-- What has been read in front of the end is read the same way in front of a delimiter. -/
theorem readToken_append {c : Char} {text rest left : List Char} {kind : TokenKind}
    (hrest : Seam rest) (h : readToken c text = ⟨.ok kind, left⟩) :
    readToken c (text ++ rest) = ⟨.ok kind, left ++ rest⟩ := by
  cases tokenStart c with
  | mark kind' _ _ hread =>
      rw [hread] at h ⊢
      cases h
      rfl
  | quote _ hread =>
      rw [hread] at h ⊢
      exact readString_append (c :: text) h (c :: (text ++ rest))
  | target _ hread =>
      rw [hread] at h ⊢
      rw [← List.cons_append]
      exact readTarget_append hrest h
  | sign _ hread =>
      rw [hread] at h ⊢
      exact readSignedNumber_append hrest (c :: text) h (c :: (text ++ rest))
  | digit _ hread =>
      rw [hread] at h ⊢
      rw [← List.cons_append]
      exact readUnsignedNumber_append hrest h
  | word _ hread =>
      rw [hread] at h ⊢
      rw [← List.cons_append]
      exact readWord_append hrest h
  | other hread =>
      rw [hread] at h
      cases h

/-!
# Tokens on their own

What has been read as a token can be cut off behind its last character, which is no blank, and is
read as the same token.
-/

section Alone

variable {text left : List Char} {kind : TokenKind}

theorem dropWhile_takeWhile (p : Char → Bool) (text : List Char) :
    (text.takeWhile p).dropWhile p = [] :=
  List.dropWhile_eq_nil_iff.mpr fun _ hc => List.mem_takeWhile_imp hc

theorem readString_cut {start : List Char} (h : readString start text = ⟨.ok kind, left⟩) :
    ∃ front, text = front ++ '"' :: left ∧
      ∀ start', readString start' (front ++ ['"']) = ⟨.ok kind, []⟩ := by
  unfold readString at h
  cases hscan : Text.Quoted.scan text with
  | closed content behind =>
      rw [hscan] at h
      cases h
      rcases Text.Quoted.scan_cut hscan with ⟨front, htext, hfront⟩
      refine ⟨front, htext, fun start' => ?_⟩
      rw [readString, hfront]
  | unclosed =>
      rw [hscan] at h
      cases h
  | badEscape escaped place behind =>
      rw [hscan] at h
      cases h

theorem readSignedNumber_cut {start : List Char}
    (h : readSignedNumber start text = ⟨.ok kind, left⟩) :
    ∃ run, text = run ++ left ∧ (∀ start', readSignedNumber start' run = ⟨.ok kind, []⟩) ∧
      ∀ c ∈ run, isBlank c = false := by
  rcases numberRun_cut false text with ⟨run, rest, htext, hnumber, hrun⟩
  simp only [readSignedNumber, hnumber] at h
  have hread := fun start' => (readNumber_of_ok h start' []).2
  rw [← (readNumber_of_ok h [] []).1]
  refine ⟨run, htext, fun start' => ?_, ?_⟩
  · simp only [readSignedNumber, hrun, hread]
  · intro c hc
    have hmem : c ∈ (numberRun false text).1 := by
      rw [hnumber]
      exact hc
    exact not_isBlank_of_isNumberPart (isNumberPart_of_mem hmem)

theorem readUnsignedNumber_cut {c : Char} (hc : c.isDigit = true)
    (h : readUnsignedNumber (c :: text) = ⟨.ok kind, left⟩) :
    ∃ run, text = run ++ left ∧ readUnsignedNumber (c :: run) = ⟨.ok kind, []⟩ ∧
      ∀ d ∈ run, isBlank d = false := by
  have hpart : isNumberPart false c = true := isNumberPart_of_isDigit hc false
  rcases numberRun_cut (isExponentMark c) text with ⟨run, rest, htext, hnumber, hrun⟩
  simp only [readUnsignedNumber, numberRun_cons hpart, hnumber] at h
  rw [← (readNumber_of_ok h [] []).1]
  refine ⟨run, htext, ?_, ?_⟩
  · simp only [readUnsignedNumber, numberRun_cons hpart, hrun]
    exact (readNumber_of_ok h _ []).2
  · intro d hd
    have hmem : d ∈ (numberRun (isExponentMark c) text).1 := by
      rw [hnumber]
      exact hd
    exact not_isBlank_of_isNumberPart (isNumberPart_of_mem hmem)

theorem readTarget_cut (h : readTarget text = ⟨.ok kind, left⟩) :
    text = (text.takeWhile fun c => !isDelimiter c) ++ left ∧
      readTarget (text.takeWhile fun c => !isDelimiter c) = ⟨.ok kind, []⟩ := by
  rcases readTarget_of_ok h with ⟨target, htarget, rfl, rfl⟩
  refine ⟨List.takeWhile_append_dropWhile.symm, ?_⟩
  simp only [readTarget, List.takeWhile_idem, dropWhile_takeWhile, htarget]

theorem readWord_cut (h : readWord text = ⟨.ok kind, left⟩) :
    text = text.takeWhile Text.isWordPart ++ left ∧
      readWord (text.takeWhile Text.isWordPart) = ⟨.ok kind, []⟩ := by
  unfold readWord at h ⊢
  rw [List.takeWhile_idem, dropWhile_takeWhile]
  cases h
  exact ⟨List.takeWhile_append_dropWhile.symm, rfl⟩

end Alone

theorem isWordPart_of_isWordStart {c : Char} (h : Text.isWordStart c = true) :
    Text.isWordPart c = true := by
  simp only [Text.isWordStart, Bool.or_eq_true] at h
  rcases h with h | h <;> simp [Text.isWordPart, h]

/-- A token takes up its first character at least, and is read alone as it is read in the text. -/
theorem readToken_cut {c : Char} {text left : List Char} {kind : TokenKind}
    (h : readToken c text = ⟨.ok kind, left⟩) :
    ∃ front, text = front ++ left ∧ readToken c front = ⟨.ok kind, []⟩ ∧
      ∀ d ∈ front.getLast?, isBlank d = false := by
  cases tokenStart c with
  | mark kind' _ _ hread =>
      rw [hread] at h
      cases h
      exact ⟨[], rfl, hread [], nofun⟩
  | quote _ hread =>
      rw [hread] at h
      rcases readString_cut h with ⟨front, rfl, hfront⟩
      refine ⟨front ++ ['"'], by simp, ?_, ?_⟩
      · rw [hread, hfront]
      · intro d hd
        rw [List.getLast?_concat] at hd
        cases hd
        decide
  | target hc hread =>
      rw [hread] at h
      subst hc
      have hcut := readTarget_cut h
      rw [takeWhile_slash, List.cons_append] at hcut
      refine ⟨_, (List.cons.inj hcut.1).2, ?_, ?_⟩
      · rw [hread, hcut.2]
      · intro d hd
        have hpart := List.mem_takeWhile_imp (List.mem_of_mem_getLast? hd)
        exact not_isBlank_of_not_isDelimiter (by simpa using hpart)
  | sign _ hread =>
      rw [hread] at h
      rcases readSignedNumber_cut h with ⟨run, htext, hrun, hblank⟩
      refine ⟨run, htext, ?_, fun d hd => hblank d (List.mem_of_mem_getLast? hd)⟩
      rw [hread, hrun]
  | digit hc hread =>
      rw [hread] at h
      rcases readUnsignedNumber_cut hc h with ⟨run, htext, hrun, hblank⟩
      refine ⟨run, htext, ?_, fun d hd => hblank d (List.mem_of_mem_getLast? hd)⟩
      rw [hread, hrun]
  | word hc hread =>
      rw [hread] at h
      have hcut := readWord_cut h
      rw [List.takeWhile_cons_of_pos (isWordPart_of_isWordStart hc), List.cons_append] at hcut
      refine ⟨_, (List.cons.inj hcut.1).2, ?_, ?_⟩
      · rw [hread, hcut.2]
      · intro d hd
        have hpart := List.mem_takeWhile_imp (List.mem_of_mem_getLast? hd)
        exact not_isBlank_of_isWordPart hpart
  | other hread =>
      rw [hread] at h
      cases h

theorem readToken_suffix {c : Char} {text left : List Char} {kind : TokenKind}
    (h : readToken c text = ⟨.ok kind, left⟩) : left <:+ text := by
  rcases readToken_cut h with ⟨front, rfl, _⟩
  exact List.suffix_append front left

end Query
end RecordFilter
