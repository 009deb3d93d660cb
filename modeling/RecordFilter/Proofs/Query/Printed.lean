import RecordFilter.Filter.Printer
import RecordFilter.Proofs.Number.Integer
import RecordFilter.Proofs.Query.Spelling
import RecordFilter.Proofs.Target
import RecordFilter.Proofs.Text.Percent

/-!
# Printed tokens

What the canonical text writes for one token is read as that token.  Words and strings are read
as they stand, a target through its escapes, and an integer digit by digit.
-/

namespace RecordFilter
namespace Query

/-!
# Words and strings
-/

theorem spells_nil : Spells (Literal.nil.text .plain) [.nil] [] :=
  .one (by decide) rfl

theorem spells_boolean (value : Bool) :
    Spells ((Literal.boolean value).text .plain) [.boolean value] [] := by
  cases value with
  | false =>
      exact .one (by decide) rfl
  | true =>
      exact .one (by decide) rfl

theorem spells_operator (operator : Operator) :
    Spells operator.keyword.toList [.operator operator] [] := by
  cases operator <;> exact .one (by decide) rfl

theorem spells_string (s : String) : Spells (Style.plain.quote s) [.string s] [] := by
  have hread : readToken '"' (Text.Quoted.body s.toList ++ ['"']) = ⟨.ok (.string s), []⟩ := by
    show readString _ _ = _
    unfold readString
    rw [Text.Quoted.scan_body s.toList []]
    simp only [String.ofList_toList]
  exact .one (by decide) hread

/-!
# Targets
-/

/-- The characters that are escaped where a style writes a target. -/
def reserved : Style → Char → Bool
  | .plain => needsEscape
  | .encoded => fun c => !Text.Percent.isUnreserved c

theorem segment_eq (style : Style) (text : List Char) :
    style.segment text = Text.Percent.escapeWhere (reserved style) text := by
  cases style <;> rfl

theorem reserved_percent (style : Style) : reserved style '%' = true := by
  cases style <;> decide

theorem isUnreserved_apart :
    (delimiters.all fun c => !Text.Percent.isUnreserved c) = true := by
  decide +kernel

theorem reserved_of_isDelimiter {c : Char} (h : isDelimiter c = true) (style : Style) :
    reserved style c = true := by
  cases style with
  | plain =>
      show (c == '%' || isDelimiter c) = true
      rw [h, Bool.or_true]
  | encoded =>
      exact List.all_eq_true.mp isUnreserved_apart c (mem_delimiters h)

theorem not_isDelimiter_upperHexDigit {n : Nat} (h : n < 16) :
    isDelimiter (Text.upperHexDigit n) = false := by
  have hall : ∀ m < 16, isDelimiter (Text.upperHexDigit m) = false := by decide
  exact hall n h

theorem not_isDelimiter_escapeByte {byte : UInt8} {c : Char}
    (h : c ∈ Text.Percent.escapeByte byte) : isDelimiter c = false := by
  have hlt : byte.toNat < 256 := byte.toNat_lt
  unfold Text.Percent.escapeByte at h
  rcases List.mem_cons.mp h with rfl | h
  · decide
  · rcases List.mem_cons.mp h with rfl | h
    · exact not_isDelimiter_upperHexDigit (by omega)
    · rw [List.mem_singleton.mp h]
      exact not_isDelimiter_upperHexDigit (by omega)

/-- An escaped text goes on to its end: nothing in it ends a target. -/
theorem not_isDelimiter_escapeWhere {style : Style} {text : List Char} {c : Char}
    (h : c ∈ Text.Percent.escapeWhere (reserved style) text) : isDelimiter c = false := by
  rcases List.mem_flatMap.mp h with ⟨d, _, hd⟩
  by_cases hescape : reserved style d = true
  · rw [if_pos hescape] at hd
    rcases List.mem_flatMap.mp hd with ⟨byte, _, hbyte⟩
    exact not_isDelimiter_escapeByte hbyte
  · rw [if_neg hescape] at hd
    rw [List.mem_singleton.mp hd]
    exact Bool.eq_false_iff.mpr fun hdelimiter =>
      hescape (reserved_of_isDelimiter hdelimiter style)

theorem not_isDelimiter_targetText {target : Target} {style : Style} {c : Char}
    (h : c ∈ target.text style) : isDelimiter c = false := by
  rcases List.mem_flatMap.mp h with ⟨segment, _, hc⟩
  rcases List.mem_cons.mp hc with rfl | hc
  · decide
  · rw [segment_eq] at hc
    exact not_isDelimiter_escapeWhere hc

/-- Either style writes escapes on top of the pointer, and reading them leaves the pointer. -/
theorem decodes_targetText (target : Target) (style : Style) :
    Text.Percent.Decodes (target.text style) target.pointerText := by
  rcases target with ⟨segments⟩
  induction segments with
  | nil =>
      exact Text.Percent.decodes_nil
  | cons segment others ih =>
      have hsegment := Text.Percent.decodes_escapeWhere (reserved_percent style)
        (Target.escapeSegment segment.toList)
      rw [← segment_eq] at hsegment
      exact (hsegment.cons (by decide)).append ih

theorem targetOf_text {target : Target} (h : target.isRoot = false) (style : Style) :
    targetOf (target.text style) = .ok target := by
  unfold targetOf
  rw [(decodes_targetText target style).decode?]
  simp only [Target.parse_pointerText h]
  rfl

theorem decode?_of_targetOf {raw : List Char} {target : Target}
    (h : targetOf raw = .ok target) : Text.Percent.decode? raw = some target.pointerText := by
  unfold targetOf at h
  cases hdecode : Text.Percent.decode? raw with
  | none =>
      rw [hdecode] at h
      cases h
  | some decoded =>
      simp only [hdecode] at h
      cases hparse : Target.parse (String.ofList decoded) with
      | error e =>
          rw [hparse] at h
          cases h
      | ok found =>
          rw [hparse] at h
          cases h
          rw [Target.pointerText_of_parse hparse, String.toList_ofList]

/-- What has no end of a target in it is read as a whole. -/
theorem readTarget_raw {raw : List Char} {target : Target}
    (hall : ∀ c ∈ raw, isDelimiter c = false) (htarget : targetOf raw = .ok target) :
    readTarget raw = ⟨.ok (.target target), []⟩ := by
  have hin : ∀ c ∈ raw, (!isDelimiter c) = true := by
    intro c hc
    rw [hall c hc]
    rfl
  have htake : raw.takeWhile (fun c => !isDelimiter c) = raw := List.takeWhile_eq_self_iff.mpr hin
  have hdrop : raw.dropWhile (fun c => !isDelimiter c) = [] := List.dropWhile_eq_nil_iff.mpr hin
  simp only [readTarget, htake, hdrop, htarget]

theorem spells_raw {raw : List Char} {target : Target} (hstart : ∃ rest, raw = '/' :: rest)
    (hall : ∀ c ∈ raw, isDelimiter c = false) (htarget : targetOf raw = .ok target) :
    Spells raw [.target target] [] := by
  have hread := readTarget_raw hall htarget
  rcases hstart with ⟨rest, rfl⟩
  exact .one (by decide) hread

theorem exists_targetText {target : Target} (h : target.isRoot = false) (style : Style) :
    ∃ rest, target.text style = '/' :: rest := by
  rcases target with ⟨segments⟩
  cases segments with
  | nil =>
      cases h
  | cons first others =>
      exact ⟨_, rfl⟩

theorem spells_target {target : Target} (h : target.isRoot = false) (style : Style) :
    Spells (target.text style) [.target target] [] :=
  spells_raw (exists_targetText h style) (fun _ => not_isDelimiter_targetText)
    (targetOf_text h style)

/-!
# Numbers

A text is read as a number if it is one run from end to end and the run is a number.
-/

theorem readToken_digit {c : Char} (hc : c.isDigit = true) (rest : List Char) :
    readToken c rest = readUnsignedNumber (c :: rest) := by
  have hne : ∀ d : Char, d.isDigit = false → c ≠ d := by
    intro d hd heq
    rw [heq, hd] at hc
    cases hc
  unfold readToken
  rw [if_neg (hne _ (by decide)), if_neg (hne _ (by decide)), if_neg (hne _ (by decide)),
    if_neg (hne _ (by decide)), if_neg (hne _ (by decide)), if_neg (hne _ (by decide)),
    if_neg (hne _ (by decide)), if_neg (hne _ (by decide)), if_pos hc]

theorem not_isBlank_digit {c : Char} (hc : c.isDigit = true) : Text.isBlank c = false :=
  not_isBlank_of_isNumberPart (isNumberPart_of_isDigit hc false)

theorem spells_signed {run : List Char} {n : Number} (hrun : numberRun false run = (run, []))
    (hread : Number.read ('-' :: run) = .ok (n, [])) : Spells ('-' :: run) [.number n] [] := by
  have htoken : readToken '-' run = ⟨.ok (.number n), []⟩ := by
    show readSignedNumber _ _ = _
    simp only [readSignedNumber, hrun, readNumber, hread]
  exact .one (by decide) htoken

theorem spells_unsigned {c : Char} {rest : List Char} {n : Number} (hc : c.isDigit = true)
    (hrun : numberRun false (c :: rest) = (c :: rest, []))
    (hread : Number.read (c :: rest) = .ok (n, [])) : Spells (c :: rest) [.number n] [] := by
  have htoken : readToken c rest = ⟨.ok (.number n), []⟩ := by
    rw [readToken_digit hc]
    simp only [readUnsignedNumber, hrun, readNumber, hread]
  exact .one (not_isBlank_digit hc) htoken

end Query
end RecordFilter
