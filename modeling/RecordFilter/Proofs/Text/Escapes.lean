import RecordFilter.Proofs.Text.Quoted

/-!
# The grammar of quoted text

The body of a quoted text is made of plain characters and of escapes.  What an escape may be is a
parameter of the grammar, since the scan reads escapes that are not documented: a plus sign may
stand in front of three digits.  Whatever the escapes are, every text behind a quote is read in
one of four ways, and the scan reads it as the grammar of its own escapes does.
-/

namespace RecordFilter
namespace Text
namespace Quoted

/-!
# Escapes

An escape is written here without its backslash.
-/

/-- The documented escapes. -/
inductive Escape : List Char → Char → Prop where
  | quote : Escape ['"'] '"'
  | backslash : Escape ['\\'] '\\'
  | slash : Escape ['/'] '/'
  | newline : Escape ['n'] '\n'
  | tab : Escape ['t'] '\t'
  | carriageReturn : Escape ['r'] '\r'
  | codePoint {digits : List Char} {c : Char} :
      digits.length = 4 → HexNumeral digits c.toNat → Escape ('u' :: digits) c

inductive SignedEscape : List Char → Char → Prop where
  | codePoint {digits : List Char} {c : Char} :
      digits.length = 3 → HexNumeral digits c.toNat → SignedEscape ('u' :: '+' :: digits) c

/-- The escapes that the scan reads. -/
def ScannedEscape (escape : List Char) (c : Char) : Prop :=
  Escape escape c ∨ SignedEscape escape c

theorem simpleEscape?_eq_some_iff {e c : Char} : simpleEscape? e = some c ↔ Escape [e] c := by
  constructor
  · intro h
    unfold simpleEscape? at h
    split at h
    · next he =>
        cases h
        rw [he]
        exact .newline
    · split at h
      · next he =>
          cases h
          rw [he]
          exact .tab
      · split at h
        · next he =>
            cases h
            rw [he]
            exact .carriageReturn
        · split at h
          · next he =>
              cases h
              rcases he with rfl | rfl | rfl
              · exact .quote
              · exact .backslash
              · exact .slash
          · cases h
  · intro h
    cases h with
    | quote | backslash | slash | newline | tab | carriageReturn =>
        rfl
    | codePoint hlength _ =>
        cases hlength

theorem codePoint?_eq_some_iff {h₁ h₂ h₃ h₄ c : Char} :
    codePoint? h₁ h₂ h₃ h₄ = some c ↔ ScannedEscape ['u', h₁, h₂, h₃, h₄] c := by
  have hread : ∀ digits,
      (readHex? digits).bind scalar? = some c ↔ HexNumeral digits c.toNat := by
    intro digits
    rw [Option.bind_eq_some_iff]
    constructor
    · rintro ⟨value, hvalue, hscalar⟩
      rw [scalar?_eq_some_iff.mp hscalar]
      exact readHex?_eq_some_iff.mp hvalue
    · intro h
      exact ⟨_, readHex?_eq_some_iff.mpr h, scalar?_toNat c⟩
  unfold codePoint?
  by_cases hplus : h₁ = '+'
  · rw [if_pos hplus, hread, hplus]
    constructor
    · intro h
      exact .inr (.codePoint rfl h)
    · intro h
      rcases h with h | h
      · cases h with
        | codePoint _ hdigits =>
            exact absurd hdigits (not_hexNumeral_plus _ _)
      · cases h with
        | codePoint _ hdigits =>
            exact hdigits
  · rw [if_neg hplus, hread]
    constructor
    · intro h
      exact .inl (.codePoint rfl h)
    · intro h
      rcases h with h | h
      · cases h with
        | codePoint _ hdigits =>
            exact hdigits
      · cases h with
        | codePoint _ _ =>
            exact absurd rfl hplus

/-!
# Bodies

The escapes are those of a given grammar, which says what each of them stands for.
-/

section Grammar

variable {Means : List Char → Char → Prop}

inductive Body (Means : List Char → Char → Prop) : List Char → List Char → Prop where
  | nil : Body Means [] []
  | plain {c : Char} {text content : List Char} :
      c ≠ '"' → c ≠ '\\' → Body Means text content → Body Means (c :: text) (c :: content)
  | escape {escape text content : List Char} {c : Char} :
      Means escape c → Body Means text content →
        Body Means ('\\' :: (escape ++ text)) (c :: content)

/-- No escape of the grammar stands at the front of the text. -/
def NoEscape (Means : List Char → Char → Prop) (text : List Char) : Prop :=
  ∀ escape c, Means escape c → ¬ escape <+: text

/-- The texts that no body goes on with. -/
inductive Stop (Means : List Char → Char → Prop) : List Char → Prop where
  | quote (rest : List Char) : Stop Means ('"' :: rest)
  | nil : Stop Means []
  | backslash : Stop Means ['\\']
  | badEscape {c : Char} {rest : List Char} :
      NoEscape Means (c :: rest) → Stop Means ('\\' :: c :: rest)

theorem Body.append {front text content content' : List Char} (hfront : Body Means front content)
    (htext : Body Means text content') : Body Means (front ++ text) (content ++ content') := by
  induction hfront with
  | nil =>
      exact htext
  | plain hquote hslash _ ih =>
      exact .plain hquote hslash ih
  | escape hescape _ ih =>
      rw [List.cons_append, List.append_assoc]
      exact .escape hescape ih

theorem Body.mono {Means' : List Char → Char → Prop}
    (hmeans : ∀ escape c, Means escape c → Means' escape c) {text content : List Char}
    (h : Body Means text content) : Body Means' text content := by
  induction h with
  | nil =>
      exact .nil
  | plain hquote hslash _ ih =>
      exact .plain hquote hslash ih
  | escape hescape _ ih =>
      exact .escape (hmeans _ _ hescape) ih

/-- By induction on the length of the text, which an escape makes shorter by its backslash. -/
theorem exists_body (Means : List Char → Char → Prop) (text : List Char) :
    ∃ front content tail,
      text = front ++ tail ∧ Body Means front content ∧ Stop Means tail := by
  induction hlength : text.length using Nat.strongRecOn generalizing text with
  | ind length ih =>
      cases text with
      | nil =>
          exact ⟨[], [], [], rfl, .nil, .nil⟩
      | cons c rest =>
          by_cases hquote : c = '"'
          · rw [hquote]
            exact ⟨[], [], '"' :: rest, rfl, .nil, .quote rest⟩
          by_cases hslash : c = '\\'
          · rw [hslash]
            by_cases hescape : ∃ escape c, Means escape c ∧ escape <+: rest
            · rcases hescape with ⟨escape, decoded, hmeans, rest', rfl⟩
              have hshorter : rest'.length < length := by
                rw [← hlength, List.length_cons, List.length_append]
                omega
              rcases ih _ hshorter rest' rfl with ⟨front, content, tail, rfl, hbody, hstop⟩
              refine ⟨'\\' :: (escape ++ front), decoded :: content, tail, ?_,
                .escape hmeans hbody, hstop⟩
              rw [List.cons_append, List.append_assoc]
            · refine ⟨[], [], '\\' :: rest, rfl, .nil, ?_⟩
              cases rest with
              | nil =>
                  exact .backslash
              | cons e rest =>
                  exact .badEscape fun escape c hmeans hprefix =>
                    hescape ⟨escape, c, hmeans, hprefix⟩
          · have hshorter : rest.length < length := by
              rw [← hlength, List.length_cons]
              omega
            rcases ih _ hshorter rest rfl with ⟨front, content, tail, rfl, hbody, hstop⟩
            exact ⟨c :: front, c :: content, tail, rfl, .plain hquote hslash hbody, hstop⟩

end Grammar

/-!
# The scan
-/

/-- The scan looks one character behind the backslash, or four more behind a letter that it knows. -/
theorem ScannedEscape.read {escape : List Char} {c : Char} (h : ScannedEscape escape c) :
    (∃ e, escape = [e] ∧ simpleEscape? e = some c) ∨
      ∃ h₁ h₂ h₃ h₄, escape = ['u', h₁, h₂, h₃, h₄] ∧ codePoint? h₁ h₂ h₃ h₄ = some c := by
  have hcode := h
  rcases h with h | h
  · cases h with
    | quote | backslash | slash | newline | tab | carriageReturn =>
        exact .inl ⟨_, rfl, rfl⟩
    | @codePoint digits _ hlength _ =>
        rcases digits with _ | ⟨h₁, digits⟩
        · cases hlength
        · rcases List.length_eq_three.mp (Nat.succ.inj hlength) with ⟨h₂, h₃, h₄, rfl⟩
          exact .inr ⟨h₁, h₂, h₃, h₄, rfl, codePoint?_eq_some_iff.mpr hcode⟩
  · cases h with
    | codePoint hlength _ =>
        rcases List.length_eq_three.mp hlength with ⟨h₂, h₃, h₄, rfl⟩
        exact .inr ⟨'+', h₂, h₃, h₄, rfl, codePoint?_eq_some_iff.mpr hcode⟩

theorem scan_scannedEscape {escape : List Char} {c : Char} (h : ScannedEscape escape c)
    (rest : List Char) : scan ('\\' :: (escape ++ rest)) = (scan rest).push c := by
  rcases h.read with ⟨e, rfl, hsimple⟩ | ⟨h₁, h₂, h₃, h₄, rfl, hcode⟩
  · exact scan_escape hsimple rest
  · exact scan_codePoint hcode rest

theorem scan_noEscape {c : Char} {rest : List Char} (h : NoEscape ScannedEscape (c :: rest)) :
    ∃ behind, scan ('\\' :: c :: rest) = .badEscape c ('\\' :: c :: rest) behind := by
  rw [scan.eq_def]
  simp only [if_neg (by decide : '\\' ≠ '"'), if_true]
  split
  · next hu =>
      rw [hu] at h ⊢
      split
      · next h₁ h₂ h₃ h₄ rest' =>
          cases hcode : codePoint? h₁ h₂ h₃ h₄ with
          | none =>
              exact ⟨_, rfl⟩
          | some decoded =>
              have hprefix : ['u', h₁, h₂, h₃, h₄] <+: 'u' :: h₁ :: h₂ :: h₃ :: h₄ :: rest' :=
                ⟨rest', rfl⟩
              exact absurd hprefix (h _ _ (codePoint?_eq_some_iff.mp hcode))
      · exact ⟨_, rfl⟩
  · cases hsimple : simpleEscape? c with
    | none =>
        exact ⟨_, rfl⟩
    | some decoded =>
        have hprefix : [c] <+: c :: rest := ⟨rest, rfl⟩
        exact absurd hprefix (h _ _ (.inl (simpleEscape?_eq_some_iff.mp hsimple)))

theorem scan_append_of_body {front content : List Char} (h : Body ScannedEscape front content)
    (tail : List Char) : scan (front ++ tail) = content.foldr Scan.push (scan tail) := by
  induction h with
  | nil =>
      rfl
  | plain hquote hslash _ ih =>
      rw [List.cons_append, scan_plain hquote hslash, ih]
      rfl
  | escape hescape _ ih =>
      rw [List.cons_append, List.append_assoc, scan_scannedEscape hescape, ih]
      rfl

theorem foldr_push_closed (content rest : List Char) :
    content.foldr Scan.push (.closed [] rest) = .closed content rest := by
  induction content with
  | nil =>
      rfl
  | cons c content ih =>
      rw [List.foldr_cons, ih]
      rfl

/-!
# Texts without a signed escape

On such a text the two grammars agree.  A signed escape is looked for behind a documented body, so
the digits of a code point and the backslash of another escape are not taken for one.
-/

def HasSignedEscape (text : List Char) : Prop :=
  ∃ front content escape c rest,
    Body Escape front content ∧ SignedEscape escape c ∧ text = front ++ '\\' :: (escape ++ rest)

theorem HasSignedEscape.behind {front content text : List Char} (hfront : Body Escape front content)
    (h : HasSignedEscape text) : HasSignedEscape (front ++ text) := by
  rcases h with ⟨front', content', escape, c, rest, hbody, hsigned, rfl⟩
  exact ⟨front ++ front', content ++ content', escape, c, rest, hfront.append hbody, hsigned,
    (List.append_assoc _ _ _).symm⟩

theorem noEscape_of_signedEscape {escape : List Char} {c : Char} (h : SignedEscape escape c)
    (rest : List Char) : NoEscape Escape (escape ++ rest) := by
  intro documented decoded hdocumented hprefix
  cases h with
  | codePoint _ _ =>
      cases hdocumented with
      | quote | backslash | slash | newline | tab | carriageReturn =>
          cases (List.cons_prefix_cons.mp hprefix).1
      | @codePoint digits _ hlength hdigits =>
          cases digits with
          | nil =>
              cases hlength
          | cons digit digits =>
              have hplus : digit = '+' :=
                (List.cons_prefix_cons.mp (List.cons_prefix_cons.mp hprefix).2).1
              rw [hplus] at hdigits
              exact not_hexNumeral_plus _ _ hdigits

theorem Body.documented {front content tail : List Char} (h : Body ScannedEscape front content)
    (hnone : ¬ HasSignedEscape (front ++ tail)) : Body Escape front content := by
  induction h with
  | nil =>
      exact .nil
  | @plain c _ _ hquote hslash _ ih =>
      have hplain : Body Escape [c] [c] := .plain hquote hslash .nil
      refine .plain hquote hslash (ih fun hsigned => hnone ?_)
      have hbehind := hsigned.behind hplain
      exact hbehind
  | @escape escape text content c hescape _ ih =>
      rcases hescape with hescape | hsigned
      · refine .escape hescape (ih fun hsigned => hnone ?_)
        have hbehind := hsigned.behind (.escape hescape .nil)
        rwa [List.append_nil, List.cons_append, ← List.append_assoc] at hbehind
      · refine absurd ⟨[], [], escape, c, text ++ tail, .nil, hsigned, ?_⟩ hnone
        rw [List.cons_append, List.append_assoc]
        rfl

end Quoted
end Text
end RecordFilter
