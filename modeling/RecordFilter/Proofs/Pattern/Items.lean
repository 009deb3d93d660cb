import RecordFilter.Pattern.Matching

/-!
# What patterns match

A pattern is read to items from left to right, and its items match a whole text piece by piece.
The rows decide this relation: each of them tells, for every suffix of the text, whether the items
from some place on match it.
-/

namespace RecordFilter
namespace Pattern

/-!
# Reading
-/

/-- The items that a text is read to. -/
inductive ReadsAs : List Char → List Item → Prop where
  | nil : ReadsAs [] []
  | dangling : ReadsAs ['\\'] [.literal '\\']
  | escaped {rest : List Char} {items : List Item} (c : Char) :
      ReadsAs rest items → ReadsAs ('\\' :: c :: rest) (.literal c :: items)
  | anyRun {rest : List Char} {items : List Item} :
      ReadsAs rest items → ReadsAs ('*' :: rest) (.anyRun :: items)
  | anyOne {rest : List Char} {items : List Item} :
      ReadsAs rest items → ReadsAs ('_' :: rest) (.anyOne :: items)
  | plain {c : Char} {rest : List Char} {items : List Item} :
      c ≠ '\\' → c ≠ '*' → c ≠ '_' → ReadsAs rest items →
      ReadsAs (c :: rest) (.literal c :: items)

theorem itemsOf_cons {c : Char} (h : c ≠ '\\') (rest : List Char) :
    itemsOf (c :: rest) = .ofChar c :: itemsOf rest := by
  rw [itemsOf.eq_def]
  simp only [if_neg h]

theorem readsAs_itemsOf (text : List Char) : ReadsAs text (itemsOf text) := by
  fun_induction itemsOf text with
  | case1 =>
      exact .nil
  | case2 =>
      exact .dangling
  | case3 d rest ih =>
      exact .escaped d ih
  | case4 c rest hescape ih =>
      unfold Item.ofChar
      split
      · next hrun =>
          rw [hrun]
          exact .anyRun ih
      · next hrun =>
          split
          · next hone =>
              rw [hone]
              exact .anyOne ih
          · next hone =>
              exact .plain hescape hrun hone ih

theorem ReadsAs.eq_itemsOf {text : List Char} {items : List Item} (h : ReadsAs text items) :
    items = itemsOf text := by
  induction h with
  | nil | dangling =>
      rfl
  | escaped c _ ih =>
      rw [ih, itemsOf, if_pos rfl]
  | anyRun _ ih | anyOne _ ih =>
      rw [ih, itemsOf_cons (by decide)]
      rfl
  | plain hescape hrun hone _ ih =>
      rw [ih, itemsOf_cons hescape, Item.ofChar, if_neg hrun, if_neg hone]

/-- Every text has one reading. -/
theorem readsAs_iff {text : List Char} {items : List Item} :
    ReadsAs text items ↔ items = itemsOf text := by
  constructor
  · exact ReadsAs.eq_itemsOf
  · intro h
    rw [h]
    exact readsAs_itemsOf text

/-!
# Matching

Characters are told apart by a relation: equality on folded texts, and agreement up to case on the
texts as they are.
-/

/-- The items match the text from its first character to its last. -/
inductive Matches (agree : Char → Char → Prop) : List Item → List Char → Prop where
  | nil : Matches agree [] []
  | anyRun {items : List Item} {rest : List Char} (front : List Char) :
      Matches agree items rest → Matches agree (.anyRun :: items) (front ++ rest)
  | anyOne {items : List Item} {rest : List Char} (c : Char) :
      Matches agree items rest → Matches agree (.anyOne :: items) (c :: rest)
  | literal {c d : Char} {items : List Item} {rest : List Char} :
      agree c d → Matches agree items rest → Matches agree (.literal c :: items) (d :: rest)

variable {agree : Char → Char → Prop} {items : List Item} {text rest : List Char} {c d : Char}

theorem matches_nil_iff : Matches agree [] text ↔ text = [] := by
  constructor
  · intro h
    cases h
    rfl
  · intro h
    rw [h]
    exact .nil

theorem matches_anyRun_iff : Matches agree (.anyRun :: items) text ↔
    ∃ front rest, text = front ++ rest ∧ Matches agree items rest := by
  constructor
  · intro h
    cases h with
    | anyRun front hrest =>
        exact ⟨front, _, rfl, hrest⟩
  · rintro ⟨front, rest, rfl, hrest⟩
    exact .anyRun front hrest

theorem matches_anyOne_iff : Matches agree (.anyOne :: items) text ↔
    ∃ c rest, text = c :: rest ∧ Matches agree items rest := by
  constructor
  · intro h
    cases h with
    | anyOne c hrest =>
        exact ⟨c, _, rfl, hrest⟩
  · rintro ⟨c, rest, rfl, hrest⟩
    exact .anyOne c hrest

theorem matches_literal_iff : Matches agree (.literal c :: items) text ↔
    ∃ d rest, text = d :: rest ∧ agree c d ∧ Matches agree items rest := by
  constructor
  · intro h
    cases h with
    | literal hagree hrest =>
        exact ⟨_, _, rfl, hagree, hrest⟩
  · rintro ⟨d, rest, rfl, hagree, hrest⟩
    exact .literal hagree hrest

/-- A run ends here, or it takes one more character. -/
theorem matches_anyRun_cons_iff : Matches agree (.anyRun :: items) (c :: rest) ↔
    Matches agree items (c :: rest) ∨ Matches agree (.anyRun :: items) rest := by
  rw [matches_anyRun_iff, matches_anyRun_iff]
  constructor
  · rintro ⟨front, back, htext, hback⟩
    cases front with
    | nil =>
        rw [htext]
        exact Or.inl hback
    | cons d front =>
        cases htext
        exact Or.inr ⟨front, back, rfl, hback⟩
  · rintro (hhere | ⟨front, back, rfl, hback⟩)
    · exact ⟨[], c :: rest, rfl, hhere⟩
    · exact ⟨c :: front, back, rfl, hback⟩

/-!
# Rows
-/

/-- The row tells of each suffix of the text, the longest first, whether it has the property. -/
inductive Tells (P : List Char → Prop) : List Char → List Bool → Prop where
  | nil {here : Bool} : (here = true ↔ P []) → Tells P [] [here]
  | cons {c : Char} {rest : List Char} {here : Bool} {later : List Bool} :
      (here = true ↔ P (c :: rest)) → Tells P rest later → Tells P (c :: rest) (here :: later)

namespace Tells

variable {P Q : List Char → Prop} {row : List Bool}

theorem headD (h : Tells P text row) : row.headD false = true ↔ P text := by
  cases h with
  | nil hhere | cons hhere _ =>
      exact hhere

/-- A row for texts that start with a character comes from the row for what is behind it. -/
theorem step {f : Char → Bool → Bool} (h : Tells P text row) (hnil : ¬Q [])
    (hcons : ∀ c rest later, (later = true ↔ P rest) → (f c later = true ↔ Q (c :: rest))) :
    Tells Q text (List.zipWith f text (row.drop 1) ++ [false]) := by
  induction h with
  | nil hhere =>
      exact .nil (iff_of_false Bool.false_ne_true hnil)
  | @cons c rest here later hhere hlater ih =>
      cases hlater with
      | nil hnext =>
          exact .cons (hcons c [] _ hnext) ih
      | cons hnext _ =>
          exact .cons (hcons c _ _ hnext) ih

theorem zipWith_drop (h : Tells P text row) :
    List.zipWith (fun _ later => later) text (row.drop 1) = row.drop 1 := by
  induction h with
  | nil hhere =>
      rfl
  | @cons c rest here later hhere hlater ih =>
      cases hlater with
      | nil hnext =>
          rfl
      | @cons d rest here later hnext hlater =>
          exact congrArg (here :: ·) ih

end Tells

theorem tells_emptyRow (text : List Char) : Tells (Matches agree []) text (emptyRow text) := by
  induction text with
  | nil =>
      exact .nil (iff_of_true rfl .nil)
  | cons c rest ih =>
      refine .cons (iff_of_false Bool.false_ne_true ?_) ih
      rw [matches_nil_iff]
      exact List.cons_ne_nil c rest

theorem tells_runRow {row : List Bool} (h : Tells (Matches agree items) text row) :
    Tells (Matches agree (.anyRun :: items)) text (nextRow text .anyRun row) := by
  induction h with
  | @nil here hhere =>
      refine .nil ?_
      show (here || false) = true ↔ _
      rw [Bool.or_false, hhere, matches_anyRun_iff]
      constructor
      · intro h
        exact ⟨[], [], rfl, h⟩
      · rintro ⟨front, rest, hnil, h⟩
        rw [(List.append_eq_nil_iff.mp hnil.symm).2] at h
        exact h
  | @cons c rest here later hhere hlater ih =>
      refine .cons ?_ ih
      show (here || (nextRow rest .anyRun later).headD false) = true ↔ _
      rw [Bool.or_eq_true, hhere, ih.headD, matches_anyRun_cons_iff]

/-- Putting an item in front of those that a row is about turns it into the next row. -/
theorem tells_nextRow {row : List Bool} (item : Item) (h : Tells (Matches Eq items) text row) :
    Tells (Matches Eq (item :: items)) text (nextRow text item row) := by
  cases item with
  | anyRun =>
      exact tells_runRow h
  | anyOne =>
      rw [nextRow, ← h.zipWith_drop]
      refine h.step (fun hnil => nomatch hnil) ?_
      intro c rest later hlater
      rw [hlater]
      constructor
      · exact .anyOne c
      · intro hmatches
        cases hmatches with
        | anyOne _ hrest =>
            exact hrest
  | literal c =>
      refine h.step (fun hnil => nomatch hnil) ?_
      intro d rest later hlater
      rw [Bool.and_eq_true, beq_iff_eq, hlater]
      constructor
      · rintro ⟨hagree, hrest⟩
        exact .literal hagree hrest
      · intro hmatches
        cases hmatches with
        | literal hagree hrest =>
            exact ⟨hagree, hrest⟩

theorem matchesItems_iff : matchesItems items text = true ↔ Matches Eq items text := by
  have hrow : Tells (Matches Eq items) text (items.foldr (nextRow text) (emptyRow text)) := by
    induction items with
    | nil =>
        exact tells_emptyRow text
    | cons item items ih =>
        exact tells_nextRow item ih
  exact hrow.headD

/-!
# Folding
-/

/-- The two characters have the same image under simple case folding. -/
def Agree (c d : Char) : Prop :=
  Text.agreeUpToCase c d = true

instance (c d : Char) : Decidable (Agree c d) :=
  inferInstanceAs (Decidable (_ = true))

theorem agree_iff : Agree c d ↔ Text.foldCase c = Text.foldCase d :=
  beq_iff_eq

theorem matches_fold_iff : Matches Eq (items.map Item.fold) (text.map Text.foldCase) ↔
    Matches Agree items text := by
  induction items generalizing text with
  | nil =>
      rw [List.map_nil, matches_nil_iff, matches_nil_iff, List.map_eq_nil_iff]
  | cons item items ih =>
      rw [List.map_cons]
      cases item with
      | anyRun =>
          show Matches Eq (.anyRun :: _) _ ↔ _
          rw [matches_anyRun_iff, matches_anyRun_iff]
          constructor
          · rintro ⟨front, rest, htext, hrest⟩
            rcases List.map_eq_append_iff.mp htext with ⟨front', rest', rfl, rfl, rfl⟩
            exact ⟨front', rest', rfl, ih.mp hrest⟩
          · rintro ⟨front, rest, rfl, hrest⟩
            exact ⟨_, _, List.map_append, ih.mpr hrest⟩
      | anyOne =>
          show Matches Eq (.anyOne :: _) _ ↔ _
          rw [matches_anyOne_iff, matches_anyOne_iff]
          constructor
          · rintro ⟨c, rest, htext, hrest⟩
            rcases List.map_eq_cons_iff.mp htext with ⟨c', rest', rfl, rfl, rfl⟩
            exact ⟨c', rest', rfl, ih.mp hrest⟩
          · rintro ⟨c, rest, rfl, hrest⟩
            exact ⟨_, _, List.map_cons, ih.mpr hrest⟩
      | literal c =>
          show Matches Eq (.literal (Text.foldCase c) :: _) _ ↔ _
          rw [matches_literal_iff, matches_literal_iff]
          constructor
          · rintro ⟨d, rest, htext, hagree, hrest⟩
            rcases List.map_eq_cons_iff.mp htext with ⟨d', rest', rfl, rfl, rfl⟩
            exact ⟨d', rest', rfl, agree_iff.mpr hagree, ih.mp hrest⟩
          · rintro ⟨d, rest, rfl, hagree, hrest⟩
            exact ⟨_, _, List.map_cons, agree_iff.mp hagree, ih.mpr hrest⟩

theorem matchesText_iff [Engine] {pattern : Pattern} (h : pattern.compiles = true) {text : String} :
    pattern.matchesText text = true ↔ Matches Agree pattern.items text.toList := by
  rw [matchesText, h, Bool.true_and, matchesItems_iff, matches_fold_iff]

/-!
# Patterns whose expression is refused
-/

theorem matchesValue_of_not_compiles [Engine] {pattern : Pattern} (h : pattern.compiles = false)
    (value : Json) : pattern.matchesValue value = false := by
  cases value with
  | string text =>
      rw [matchesValue, matchesText, h, Bool.false_and]
  | null | bool | number | array | object =>
      rfl

end Pattern
end RecordFilter
