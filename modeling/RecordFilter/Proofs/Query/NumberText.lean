import RecordFilter.Proofs.Query.Printed

/-!
# Texts of numbers

The text of a number is, behind its sign, one run of the characters that numbers are written with.
So the lexer takes it up as a whole, and either reads one number or nothing.
-/

namespace RecordFilter
namespace Query

/-!
# Runs
-/

/-- The lexer starts a number with the text and takes it up to its end. -/
structure IsRun (text : List Char) : Prop where
  starts : ∃ c rest, text = c :: rest ∧ c.isDigit = true
  whole : numberRun false text = (text, [])

/-- The characters of a number that allow no sign behind them. -/
def isPlainPart (c : Char) : Bool :=
  c.isDigit || c == '.'

theorem isPlainPart_of_isDigit {c : Char} (h : c.isDigit = true) : isPlainPart c = true := by
  unfold isPlainPart
  rw [h, Bool.true_or]

theorem not_isExponentMark_of_isPlainPart {c : Char} (h : isPlainPart c = true) :
    isExponentMark c = false := by
  cases hmark : isExponentMark c with
  | false =>
      rfl
  | true =>
      rcases Bool.or_eq_true_iff.mp hmark with hc | hc
      all_goals
        rw [eq_of_beq hc] at h
        revert h
        decide

theorem numberRun_plain_append {front : List Char} (h : ∀ c ∈ front, isPlainPart c = true)
    (back : List Char) : numberRun false (front ++ back) =
      (front ++ (numberRun false back).1, (numberRun false back).2) := by
  induction front with
  | nil =>
      rfl
  | cons c front ih =>
      rw [List.forall_mem_cons] at h
      have hpart : isNumberPart false c = true := by
        have hc := h.1
        unfold isPlainPart at hc
        unfold isNumberPart
        rw [hc, Bool.true_or, Bool.true_or]
      rw [List.cons_append, numberRun_cons hpart, not_isExponentMark_of_isPlainPart h.1, ih h.2]
      rfl

theorem isRun_plain {c : Char} {rest : List Char} (hc : c.isDigit = true)
    (h : ∀ d ∈ rest, isPlainPart d = true) : IsRun (c :: rest) := by
  have hall : ∀ d ∈ c :: rest, isPlainPart d = true :=
    List.forall_mem_cons.mpr ⟨isPlainPart_of_isDigit hc, h⟩
  have hwhole := numberRun_plain_append hall []
  simp only [List.append_nil] at hwhole
  exact ⟨⟨c, rest, rfl, hc⟩, hwhole.trans (by simp [numberRun])⟩

/-- The mark of an exponent takes the sign behind it along. -/
theorem isRun_exponent {c sign : Char} {rest digits : List Char} (hc : c.isDigit = true)
    (h : ∀ d ∈ rest, isPlainPart d = true) (hsign : isNumberPart true sign = true)
    (hmark : isExponentMark sign = false) (hdigits : ∀ d ∈ digits, isPlainPart d = true) :
    IsRun (c :: rest ++ 'e' :: sign :: digits) := by
  have hall : ∀ d ∈ c :: rest, isPlainPart d = true :=
    List.forall_mem_cons.mpr ⟨isPlainPart_of_isDigit hc, h⟩
  have hexponent : numberRun false digits = (digits, []) := by
    have hwhole := numberRun_plain_append hdigits []
    simpa [numberRun] using hwhole
  have hmarked : numberRun false ('e' :: sign :: digits) = ('e' :: sign :: digits, []) := by
    have he : isExponentMark 'e' = true := by decide
    rw [numberRun_cons (by decide), he, numberRun_cons hsign, hmark, hexponent]
  refine ⟨⟨c, rest ++ 'e' :: sign :: digits, rfl, hc⟩, ?_⟩
  rw [numberRun_plain_append hall, hmarked]

/-!
# Decimals
-/

section Decimals

variable {digits : List Char}

theorem isPlainPart_zeros {count : Nat} {c : Char} (h : c ∈ Decimal.zeros count) :
    isPlainPart c = true := by
  rw [List.eq_of_mem_replicate h]
  decide

theorem isRun_positional (hne : digits ≠ []) (h : ∀ c ∈ digits, c.isDigit = true) (point : Int) :
    IsRun (Decimal.positional digits point) := by
  have hplain : ∀ c ∈ digits, isPlainPart c = true := fun c hc => isPlainPart_of_isDigit (h c hc)
  unfold Decimal.positional
  split
  · refine isRun_plain (by decide) ?_
    intro c hc
    rcases List.mem_cons.mp hc with rfl | hc
    · decide
    · rcases List.mem_append.mp hc with hc | hc
      · exact isPlainPart_zeros hc
      · exact hplain c hc
  · next hpoint =>
      cases digits with
      | nil =>
          exact absurd rfl hne
      | cons first rest =>
          rw [List.forall_mem_cons] at h hplain
          split
          · refine isRun_plain h.1 ?_
            intro c hc
            rcases List.mem_append.mp hc with hc | hc
            · rcases List.mem_append.mp hc with hc | hc
              · exact hplain.2 c hc
              · exact isPlainPart_zeros hc
            · rcases List.mem_cons.mp hc with rfl | hc
              · decide
              · rw [List.mem_singleton.mp hc]
                decide
          · have hpositive : ∃ count, point.toNat = count + 1 := ⟨point.toNat - 1, by omega⟩
            rcases hpositive with ⟨count, hcount⟩
            rw [hcount]
            refine isRun_plain h.1 ?_
            intro c hc
            rcases List.mem_append.mp hc with hc | hc
            · exact hplain.2 c (List.mem_of_mem_take hc)
            · rcases List.mem_cons.mp hc with rfl | hc
              · decide
              · exact hplain.2 c (List.mem_of_mem_drop hc)

theorem isRun_scientific (hne : digits ≠ []) (h : ∀ c ∈ digits, c.isDigit = true) (point : Int) :
    IsRun (Decimal.scientific digits point) := by
  have hexponent : ∀ c ∈ Nat.toDigits 10 (point - 1).natAbs, isPlainPart c = true :=
    fun c hc => isPlainPart_of_isDigit (Numeral.isDigit_of_mem hc)
  have hsign : isNumberPart true (if point - 1 < 0 then '-' else '+') = true ∧
      isExponentMark (if point - 1 < 0 then '-' else '+') = false := by
    split <;> decide
  cases digits with
  | nil =>
      exact absurd rfl hne
  | cons first rest =>
      rw [List.forall_mem_cons] at h
      cases rest with
      | nil =>
          exact isRun_exponent h.1 (List.forall_mem_nil _) hsign.1 hsign.2 hexponent
      | cons second others =>
          have htail : ∀ c ∈ '.' :: second :: others, isPlainPart c = true :=
            List.forall_mem_cons.mpr ⟨by decide, fun c hc => isPlainPart_of_isDigit (h.2 c hc)⟩
          exact isRun_exponent h.1 htail hsign.1 hsign.2 hexponent

end Decimals

theorem isRun_decimal (d : Decimal) : IsRun d.text := by
  have hdigits : ∀ c ∈ Nat.toDigits 10 d.coefficient, c.isDigit = true :=
    fun _ => Numeral.isDigit_of_mem
  unfold Decimal.text
  simp only
  split
  · exact isRun_positional Nat.toDigits_ne_nil hdigits _
  · exact isRun_scientific Nat.toDigits_ne_nil hdigits _

/-!
# Numbers
-/

theorem exists_run (n : Number) :
    ∃ run, IsRun run ∧ (n.text = run ∨ n.text = '-' :: run) := by
  cases n with
  | integer value fits =>
      have hdigits : ∀ c ∈ Nat.toDigits 10 value.natAbs, c.isDigit = true :=
        fun _ => Numeral.isDigit_of_mem
      refine ⟨Nat.toDigits 10 value.natAbs, ?_, ?_⟩
      · cases hlist : Nat.toDigits 10 value.natAbs with
        | nil =>
            exact absurd hlist Nat.toDigits_ne_nil
        | cons c rest =>
            rw [hlist, List.forall_mem_cons] at hdigits
            exact isRun_plain hdigits.1 fun d hd => isPlainPart_of_isDigit (hdigits.2 d hd)
      · by_cases hnegative : value < 0
        · exact Or.inr (if_pos hnegative)
        · exact Or.inl (if_neg hnegative)
  | float x =>
      refine ⟨if x.isZero then ['0', '.', '0'] else x.magnitude.shortest.text, ?_, ?_⟩
      · split
        · have htail : ∀ c ∈ ['.', '0'], isPlainPart c = true :=
            List.forall_mem_cons.mpr ⟨by decide, List.forall_mem_singleton.mpr (by decide)⟩
          exact isRun_plain (by decide) htail
        · exact isRun_decimal _
      · by_cases hnegative : x.negative = true
        · exact Or.inr (if_pos hnegative)
        · exact Or.inl (if_neg hnegative)

theorem IsRun.isNumberPart {run : List Char} (h : IsRun run) {c : Char} (hc : c ∈ run) :
    isNumberPart true c = true := by
  have hwhole : c ∈ (numberRun false run).1 := by
    rw [h.whole]
    exact hc
  exact isNumberPart_of_mem hwhole

theorem isNumberPart_of_mem_text {n : Number} {c : Char} (h : c ∈ n.text) :
    isNumberPart true c = true := by
  rcases exists_run n with ⟨run, hrun, htext | htext⟩
  · rw [htext] at h
    exact hrun.isNumberPart h
  · rw [htext] at h
    rcases List.mem_cons.mp h with rfl | h
    · decide
    · exact hrun.isNumberPart h

theorem percent_not_mem_text (n : Number) : '%' ∉ n.text := by
  intro h
  have hpart := isNumberPart_of_mem_text h
  revert hpart
  decide

theorem spells_number {n m : Number} (h : Number.read n.text = .ok (m, [])) :
    Spells n.text [.number m] [] := by
  rcases exists_run n with ⟨run, hrun, htext | htext⟩
  · rcases hrun.starts with ⟨c, rest, rfl, hc⟩
    rw [htext] at h ⊢
    exact spells_unsigned hc hrun.whole h
  · rw [htext] at h ⊢
    exact spells_signed hrun.whole h

theorem spells_integer {n : Int} (h : Number.Fits n) :
    Spells (Number.integerText n) [.number (.integer n h)] [] :=
  @spells_number (.integer n h) _ (Number.read_integerText h)

/-- A text with a number in front is lexed to its end only if the number is read. -/
theorem read_of_spells_append {n : Number} {rest : List Char} {list : List TokenKind}
    (hrest : Seam rest) (h : Spells (n.text ++ rest) list []) :
    ∃ m, Number.read n.text = .ok (m, []) := by
  have hnumber : ∀ {start run behind left kind},
      readNumber start run behind = ⟨.ok kind, left⟩ → ∃ m, Number.read run = .ok (m, []) := by
    intro start run behind left kind hread
    unfold readNumber at hread
    split at hread
    · next m hm =>
        exact ⟨m, hm⟩
    · cases hread
  rcases exists_run n with ⟨run, hrun, htext | htext⟩
  · rcases hrun.starts with ⟨c, text, rfl, hc⟩
    rw [htext, List.cons_append] at h
    rw [htext]
    cases h with
    | blank hblank _ =>
        rw [not_isBlank_digit hc] at hblank
        cases hblank
    | token _ hread _ =>
        rw [readToken_digit hc, ← List.cons_append] at hread
        simp only [readUnsignedNumber, numberRun_append hrest.not_numberPart, hrun.whole] at hread
        exact hnumber hread
  · rw [htext, List.cons_append] at h
    rw [htext]
    cases h with
    | blank hblank _ =>
        have hsign : Text.isBlank '-' = false := by decide
        rw [hsign] at hblank
        cases hblank
    | token _ hread _ =>
        have hsigned : readToken '-' (run ++ rest) = readSignedNumber ('-' :: (run ++ rest))
            (run ++ rest) := rfl
        rw [hsigned] at hread
        simp only [readSignedNumber, numberRun_append hrest.not_numberPart, hrun.whole] at hread
        exact hnumber hread

end Query
end RecordFilter
