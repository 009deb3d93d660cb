import RecordFilter.Pattern.Engine
import RecordFilter.Proofs.Pattern.Items

/-!
# What the engine of the program refuses

The dots of an expression are those of its wildcards, since a literal dot is escaped.  So the engine
of the program counts the wildcards of a pattern.
-/

namespace RecordFilter
namespace Pattern

theorem dots_dot (rest : List Char) : dots ('.' :: rest) = dots rest + 1 := by
  rw [dots.eq_def]
  simp only [if_neg (by decide : '.' ≠ '\\'), if_true]

theorem dots_escaped (c : Char) (rest : List Char) : dots ('\\' :: c :: rest) = dots rest := by
  rw [dots.eq_def]
  simp only [if_true]

theorem dots_plain {c : Char} (hescape : c ≠ '\\') (hdot : c ≠ '.') (rest : List Char) :
    dots (c :: rest) = dots rest := by
  rw [dots.eq_def]
  simp only [if_neg hescape, if_neg hdot]

theorem dots_literal (c : Char) (rest : List Char) :
    dots (Item.expression (.literal c) ++ rest) = dots rest := by
  by_cases hmeta : isMeta c = true
  · rw [Item.expression, if_pos hmeta]
    exact dots_escaped c rest
  · have hne : ∀ mark, isMeta mark = true → c ≠ mark := by
      rintro mark hmark rfl
      exact hmeta hmark
    rw [Item.expression, if_neg hmeta]
    exact dots_plain (hne _ (by decide)) (hne _ (by decide)) rest

theorem dots_expression (item : Item) (rest : List Char) :
    dots (item.expression ++ rest) = dots rest + if item.isWildcard then 1 else 0 := by
  cases item with
  | anyRun =>
      show dots ('.' :: '*' :: rest) = dots rest + 1
      rw [dots_dot, dots_plain (by decide) (by decide)]
  | anyOne =>
      exact dots_dot rest
  | literal c =>
      exact dots_literal c rest

theorem dots_items (items : List Item) (rest : List Char) :
    dots (items.flatMap Item.expression ++ rest) =
      dots rest + (items.filter Item.isWildcard).length := by
  induction items with
  | nil =>
      rfl
  | cons item items ih =>
      rw [List.flatMap_cons, List.append_assoc, dots_expression, ih, List.filter_cons]
      cases item.isWildcard <;> rfl

theorem compiles_iff (pattern : Pattern) :
    pattern.compiles = true ↔ (pattern.items.filter Item.isWildcard).length < dotLimit := by
  have hdots : dots pattern.expressionText = (pattern.items.filter Item.isWildcard).length := by
    rw [expressionText, List.cons_append, dots_plain (by decide) (by decide), dots_items,
      dots_plain (by decide) (by decide)]
    exact Nat.zero_add _
  rw [← hdots]
  exact decide_eq_true_iff

theorem compiles_wildcards (n : Nat) :
    (Pattern.mk (String.ofList (List.replicate n '_'))).compiles = decide (n < dotLimit) := by
  have hitems : itemsOf (List.replicate n '_') = List.replicate n .anyOne := by
    induction n with
    | zero =>
        rfl
    | succ n ih =>
        rw [List.replicate_succ, itemsOf_cons (by decide), ih]
        rfl
  apply Bool.eq_iff_iff.mpr
  rw [compiles_iff, items, String.toList_ofList, hitems, List.filter_replicate_of_pos rfl,
    List.length_replicate, decide_eq_true_iff]

end Pattern
end RecordFilter
