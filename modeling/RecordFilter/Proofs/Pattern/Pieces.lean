import Mathlib.Data.List.Forall2
import RecordFilter.Proofs.Pattern.Expression

/-!
# The pieces of an expression

What stands between the anchors of an expression is made of pieces: a dot, a dot with a star, an
escaped mark, or a character that is no mark.  A dot is the start of a dot with a star, so the
pieces are no prefix code, but no piece starts with a star.  Reading the expression gives the items
back, and with them the only way to split it.
-/

namespace RecordFilter
namespace Pattern

/-!
# Splitting
-/

/-- A piece of an expression and the item that it is read as. -/
inductive StandsFor : List Char → Item → Prop where
  | anyRun : StandsFor ['.', '*'] .anyRun
  | anyOne : StandsFor ['.'] .anyOne
  | escaped {c : Char} : isMeta c = true → StandsFor ['\\', c] (.literal c)
  | plain {c : Char} : isMeta c = false → StandsFor [c] (.literal c)

/-- The text is made of the pieces, each of which stands for some item. -/
def SplitsInto (text : List Char) (pieces : List (List Char)) : Prop :=
  pieces.flatten = text ∧ ∀ piece ∈ pieces, ∃ item, StandsFor piece item

theorem standsFor_iff {piece : List Char} {item : Item} :
    StandsFor piece item ↔ piece = item.expression := by
  constructor
  · intro h
    cases h with
    | anyRun | anyOne =>
        rfl
    | escaped hmeta =>
        exact (if_pos hmeta).symm
    | plain hmeta =>
        exact (if_neg (Bool.eq_false_iff.mp hmeta)).symm
  · rintro rfl
    cases item with
    | anyRun =>
        exact .anyRun
    | anyOne =>
        exact .anyOne
    | literal c =>
        by_cases hmeta : isMeta c = true
        · rw [Item.expression, if_pos hmeta]
          exact .escaped hmeta
        · rw [Item.expression, if_neg hmeta]
          exact .plain (Bool.eq_false_iff.mpr hmeta)

theorem forall₂_standsFor_iff {pieces : List (List Char)} {items : List Item} :
    List.Forall₂ StandsFor pieces items ↔ pieces = items.map Item.expression := by
  have hrelation : StandsFor = fun piece item => piece = Item.expression item := by
    funext piece item
    exact propext standsFor_iff
  rw [hrelation, ← List.forall₂_map_right_iff, List.forall₂_eq_eq_eq]

theorem splitsInto_iff {text : List Char} {pieces : List (List Char)} :
    SplitsInto text pieces ↔
      ∃ items : List Item,
        text = items.flatMap Item.expression ∧ pieces = items.map Item.expression := by
  constructor
  · rintro ⟨rfl, hpieces⟩
    induction pieces with
    | nil =>
        exact ⟨[], rfl, rfl⟩
    | cons piece pieces ih =>
        rcases List.forall_mem_cons.mp hpieces with ⟨⟨item, hpiece⟩, hrest⟩
        rcases ih hrest with ⟨items, htext, rfl⟩
        rw [standsFor_iff] at hpiece
        refine ⟨item :: items, ?_, ?_⟩
        · rw [List.flatten_cons, htext, hpiece, List.flatMap_cons]
        · rw [hpiece, List.map_cons]
  · rintro ⟨items, rfl, rfl⟩
    refine ⟨List.flatMap_def.symm, fun piece hpiece => ?_⟩
    rcases List.mem_map.mp hpiece with ⟨item, _, rfl⟩
    exact ⟨item, standsFor_iff.mpr rfl⟩

/-!
# One way to split

What reads an expression gets the items back, so two lists of items do not share one text.
-/

theorem pieceOf_injective : Function.Injective Expression.pieceOf := by
  intro item other h
  cases item with
  | anyRun =>
      cases other with
      | anyRun => rfl
      | anyOne | literal d => cases h
  | anyOne =>
      cases other with
      | anyOne => rfl
      | anyRun | literal d => cases h
  | literal c =>
      cases other with
      | literal d =>
          cases h
          rfl
      | anyRun | anyOne => cases h

theorem flatMap_expression_injective :
    Function.Injective fun items : List Item => items.flatMap Item.expression := by
  intro items others h
  have hread := Expression.read?_anchored items
  simp only at h
  rw [h, Expression.read?_anchored others, Option.some.injEq, List.cons.injEq,
    List.append_left_inj] at hread
  exact (List.map_injective_iff.mpr pieceOf_injective hread.2).symm

theorem expressionText_inj {pattern other : Pattern} :
    other.expressionText = pattern.expressionText ↔ other.items = pattern.items := by
  constructor
  · intro h
    apply flatMap_expression_injective
    rw [expressionText, expressionText, List.cons_append, List.cons_append, List.cons.injEq,
      List.append_left_inj] at h
    exact h.2
  · intro h
    rw [expressionText, expressionText, h]

theorem splitsInto_flatMap_iff {items : List Item} {pieces : List (List Char)} :
    SplitsInto (items.flatMap Item.expression) pieces ↔ pieces = items.map Item.expression := by
  rw [splitsInto_iff]
  constructor
  · rintro ⟨others, htext, rfl⟩
    rw [flatMap_expression_injective htext]
  · intro h
    exact ⟨items, rfl, h⟩

/-!
# Operators
-/

/-- The symbols of an expression that do not stand for a character of their own. -/
def Expression.Symbol.isOperator : Expression.Symbol → Bool
  | .atom (.literal _) => false
  | _ => true

theorem filter_isOperator_symbolsOf (items : List Item) :
    (items.flatMap Expression.symbolsOf).filter Expression.Symbol.isOperator =
      (items.filter Item.isWildcard).flatMap Expression.symbolsOf := by
  induction items with
  | nil =>
      rfl
  | cons item items ih =>
      rw [List.flatMap_cons, List.filter_append, ih]
      cases item with
      | anyRun | anyOne | literal c =>
          rfl

/--
Between its anchors, the expression of a pattern splits in one way into pieces, and these are read
one by one as the items of the raw text.  Its only operators are the anchors and those of the
wildcards.  The expression is that of another pattern just when the other one has the same items.
-/
theorem expression_splits (pattern : Pattern) :
    ∃ body pieces items,
      pattern.expression.toList = '^' :: (body ++ ['$']) ∧
      (∀ other, SplitsInto body other ↔ other = pieces) ∧
      (∀ other, List.Forall₂ StandsFor pieces other ↔ other = items) ∧
      (∀ other, ReadsAs pattern.raw.toList other ↔ other = items) ∧
      (∃ symbols, Expression.symbols? pattern.expression.toList = some symbols ∧
        symbols.filter Expression.Symbol.isOperator = .atom .start ::
          ((items.filter Item.isWildcard).flatMap Expression.symbolsOf ++ [.atom .stop])) ∧
      ∀ other : Pattern, other.expression = pattern.expression ↔
        ReadsAs other.raw.toList items := by
  have htext : pattern.expression.toList =
      '^' :: (pattern.items.flatMap Item.expression ++ ['$']) := by
    rw [expression, String.toList_ofList]
    rfl
  refine ⟨pattern.items.flatMap Item.expression, pattern.items.map Item.expression,
    pattern.items, htext, fun _ => splitsInto_flatMap_iff, ?_, fun _ => readsAs_iff, ?_, ?_⟩
  · intro other
    rw [forall₂_standsFor_iff]
    constructor
    · intro h
      apply flatMap_expression_injective
      simp only [List.flatMap_def, h]
    · intro h
      rw [h]
  · have hsymbols := Expression.symbols?_anchored pattern.items
    rw [← htext] at hsymbols
    refine ⟨_, hsymbols, ?_⟩
    rw [List.filter_cons_of_pos rfl, List.filter_append, filter_isOperator_symbolsOf]
    rfl
  · intro other
    rw [readsAs_iff, expression, expression, String.ofList_inj, expressionText_inj, eq_comm]
    rfl

/-- An escaped star, a mark, a backslash that is escaped, and one at the end. -/
example : (Pattern.mk "*\\*_.\\\\\\").expression = "^.*\\*.\\.\\\\\\\\$" := by
  decide +kernel

end Pattern
end RecordFilter
