import RecordFilter.Proofs.Text.Hex
import RecordFilter.Text.Quoted

/-!
# Quoted text read back

The scan of a quoted text goes one character or one escape at a time.  It stops at the closing
quote, so what is behind the quote makes no difference to it, and it undoes what writing does.
-/

namespace RecordFilter
namespace Text
namespace Quoted

/-!
# Steps of the scan
-/

theorem scan_close (rest : List Char) : scan ('"' :: rest) = .closed [] rest := by
  rw [scan.eq_def]
  exact if_pos rfl

theorem scan_plain {c : Char} (hquote : c ≠ '"') (hescape : c ≠ '\\') (rest : List Char) :
    scan (c :: rest) = (scan rest).push c := by
  rw [scan.eq_def]
  simp only [if_neg hquote, if_neg hescape]

theorem scan_escape {e decoded : Char} (h : simpleEscape? e = some decoded) (rest : List Char) :
    scan ('\\' :: e :: rest) = (scan rest).push decoded := by
  have hu : e ≠ 'u' := by
    intro heq
    rw [heq] at h
    cases h
  rw [scan.eq_def]
  simp [hu, h]

theorem scan_codePoint {h₁ h₂ h₃ h₄ decoded : Char}
    (h : codePoint? h₁ h₂ h₃ h₄ = some decoded) (rest : List Char) :
    scan ('\\' :: 'u' :: h₁ :: h₂ :: h₃ :: h₄ :: rest) = (scan rest).push decoded := by
  rw [scan.eq_def]
  simp [h]

theorem push_eq_closed {result : Scan} {c : Char} {content rest : List Char}
    (h : result.push c = .closed content rest) :
    ∃ content', result = .closed content' rest ∧ c :: content' = content := by
  cases result with
  | closed content' rest' =>
      cases h
      exact ⟨content', rfl, rfl⟩
  | unclosed =>
      cases h
  | badEscape escaped place rest' =>
      cases h

/-- What is behind the closing quote stays behind it. -/
theorem scan_append {text content rest : List Char} (h : scan text = .closed content rest)
    (more : List Char) : scan (text ++ more) = .closed content (rest ++ more) := by
  fun_induction scan text generalizing content rest with
  | case1 | case3 | case5 | case6 | case8 =>
      cases h
  | case2 rest' =>
      cases h
      exact scan_close _
  | case4 h₁ h₂ h₃ h₄ rest' decoded hcode _ ih =>
      rcases push_eq_closed h with ⟨content', hscan, rfl⟩
      show scan ('\\' :: 'u' :: h₁ :: h₂ :: h₃ :: h₄ :: (rest' ++ more)) = _
      rw [scan_codePoint hcode, ih hscan]
      rfl
  | case7 e rest' _ decoded hescape _ ih =>
      rcases push_eq_closed h with ⟨content', hscan, rfl⟩
      show scan ('\\' :: e :: (rest' ++ more)) = _
      rw [scan_escape hescape, ih hscan]
      rfl
  | case9 c rest' hquote hslash ih =>
      rcases push_eq_closed h with ⟨content', hscan, rfl⟩
      rw [List.cons_append, scan_plain hquote hslash, ih hscan]
      rfl

/-- A quoted text can be cut off behind its closing quote. -/
theorem scan_cut {text content rest : List Char} (h : scan text = .closed content rest) :
    ∃ front, text = front ++ '"' :: rest ∧ scan (front ++ ['"']) = .closed content [] := by
  fun_induction scan text generalizing content rest with
  | case1 | case3 | case5 | case6 | case8 =>
      cases h
  | case2 rest' =>
      cases h
      exact ⟨[], rfl, scan_close []⟩
  | case4 h₁ h₂ h₃ h₄ rest' decoded hcode _ ih =>
      rcases push_eq_closed h with ⟨content', hscan, rfl⟩
      rcases ih hscan with ⟨front, rfl, hfront⟩
      refine ⟨'\\' :: 'u' :: h₁ :: h₂ :: h₃ :: h₄ :: front, rfl, ?_⟩
      show scan ('\\' :: 'u' :: h₁ :: h₂ :: h₃ :: h₄ :: (front ++ ['"'])) = _
      rw [scan_codePoint hcode, hfront]
      rfl
  | case7 e rest' _ decoded hescape _ ih =>
      rcases push_eq_closed h with ⟨content', hscan, rfl⟩
      rcases ih hscan with ⟨front, rfl, hfront⟩
      refine ⟨'\\' :: e :: front, rfl, ?_⟩
      show scan ('\\' :: e :: (front ++ ['"'])) = _
      rw [scan_escape hescape, hfront]
      rfl
  | case9 c rest' hquote hslash ih =>
      rcases push_eq_closed h with ⟨content', hscan, rfl⟩
      rcases ih hscan with ⟨front, rfl, hfront⟩
      refine ⟨c :: front, rfl, ?_⟩
      rw [List.cons_append, scan_plain hquote hslash, hfront]
      rfl

theorem push_eq_badEscape {result : Scan} {c escaped : Char} {place rest : List Char}
    (h : result.push c = .badEscape escaped place rest) :
    result = .badEscape escaped place rest := by
  cases result with
  | closed content rest' =>
      cases h
  | unclosed =>
      cases h
  | badEscape escaped' place' rest' =>
      exact h

/-- The place of a bad escape is in the text, and the escape stands there. -/
theorem scan_badEscape {text place rest : List Char} {escaped : Char}
    (h : scan text = .badEscape escaped place rest) :
    place <:+ text ∧ ['\\', escaped] <+: place := by
  fun_induction scan text with
  | case1 | case2 | case3 =>
      cases h
  | case4 h₁ h₂ h₃ h₄ rest' decoded _ _ ih =>
      rcases ih (push_eq_badEscape h) with ⟨hsuffix, hprefix⟩
      exact ⟨hsuffix.trans (List.suffix_append ['\\', 'u', h₁, h₂, h₃, h₄] rest'), hprefix⟩
  | case5 | case6 | case8 =>
      cases h
      exact ⟨List.suffix_refl _, List.prefix_append _ _⟩
  | case7 e rest' _ decoded _ _ ih =>
      rcases ih (push_eq_badEscape h) with ⟨hsuffix, hprefix⟩
      exact ⟨hsuffix.trans (List.suffix_append ['\\', e] rest'), hprefix⟩
  | case9 c rest' _ _ ih =>
      rcases ih (push_eq_badEscape h) with ⟨hsuffix, hprefix⟩
      exact ⟨hsuffix.trans (List.suffix_cons c rest'), hprefix⟩

/-- The text that a scan has not looked at, or has left to be looked at again. -/
def Scan.left : Scan → List Char
  | closed _ rest => rest
  | unclosed => []
  | badEscape _ _ rest => rest

theorem left_push (c : Char) (result : Scan) : (result.push c).left = result.left := by
  cases result <;> rfl

/-- However a scan ends, it stands somewhere in its text. -/
theorem scan_left_suffix (text : List Char) : (scan text).left <:+ text := by
  fun_induction scan text with
  | case1 | case3 =>
      exact List.nil_suffix
  | case2 rest' =>
      exact List.suffix_cons '"' rest'
  | case4 h₁ h₂ h₃ h₄ rest' decoded _ _ ih =>
      rw [left_push]
      exact ih.trans (List.suffix_append ['\\', 'u', h₁, h₂, h₃, h₄] rest')
  | case5 h₁ h₂ h₃ h₄ rest' _ _ =>
      exact List.suffix_append ['\\', 'u'] _
  | case6 rest' _ _ =>
      exact List.suffix_append ['\\', 'u'] rest'
  | case7 e rest' _ decoded _ _ ih =>
      rw [left_push]
      exact ih.trans (List.suffix_append ['\\', e] rest')
  | case8 e rest' _ _ _ =>
      exact List.suffix_cons '\\' (e :: rest')
  | case9 c rest' _ _ ih =>
      rw [left_push]
      exact ih.trans (List.suffix_cons c rest')

/-!
# Writing and reading back
-/

theorem codePoint?_control {c : Char} (h : isControl c = true) :
    codePoint? (lowerHexDigit (c.toNat / 4096 % 16)) (lowerHexDigit (c.toNat / 256 % 16))
      (lowerHexDigit (c.toNat / 16 % 16)) (lowerHexDigit (c.toNat % 16)) = some c := by
  have hsmall : c.toNat < 0x10000 := by
    simp only [isControl, Bool.or_eq_true, Bool.and_eq_true, decide_eq_true_eq] at h
    omega
  have hplus : lowerHexDigit (c.toNat / 4096 % 16) ≠ '+' := by
    intro heq
    have hdigit := hexDigit?_lowerHexDigit (Nat.mod_lt (c.toNat / 4096) (by decide : 0 < 16))
    rw [heq, hexDigit?_plus] at hdigit
    cases hdigit
  rw [codePoint?, if_neg hplus]
  have hread := readHex?_fourHexDigits hsmall
  rw [fourHexDigits] at hread
  rw [hread]
  exact scalar?_toNat c

theorem scan_escape_append (c : Char) (rest : List Char) :
    scan (escape c ++ rest) = (scan rest).push c := by
  unfold escape
  split
  · next h =>
      rw [h]
      exact scan_escape rfl rest
  · next hquote =>
      split
      · next h =>
          rw [h]
          exact scan_escape rfl rest
      · next hslash =>
          split
          · next h =>
              rw [h]
              exact scan_escape rfl rest
          · split
            · next h =>
                rw [h]
                exact scan_escape rfl rest
            · split
              · next h =>
                  rw [h]
                  exact scan_escape rfl rest
              · split
                · next hcontrol =>
                    exact scan_codePoint (codePoint?_control hcontrol) rest
                · exact scan_plain hquote hslash rest

theorem scan_body (text rest : List Char) :
    scan (body text ++ '"' :: rest) = .closed text rest := by
  induction text with
  | nil =>
      exact scan_close rest
  | cons c text ih =>
      have hbody : body (c :: text) = escape c ++ body text := rfl
      rw [hbody, List.append_assoc, scan_escape_append, ih]
      rfl

end Quoted
end Text
end RecordFilter
