import RecordFilter.Filter.Evaluation
import RecordFilter.Pattern.Engine
import RecordFilter.Proofs.Filter.Building
import RecordFilter.Proofs.Query.Composition

/-!
# Folding from left to right

No conjunction binds tighter than another: whatever stands in front of an element has its answer
before the element is looked at.  So a group around the first elements changes nothing, while a
group around later ones can.
-/

namespace RecordFilter

namespace Conjunction

theorem combine_and_iff {left right : Bool} :
    and.combine left right = true ↔ left = true ∧ right = true :=
  Bool.and_eq_true_iff

theorem combine_or_iff {left right : Bool} :
    or.combine left right = true ↔ left = true ∨ right = true :=
  Bool.or_eq_true_iff

end Conjunction

namespace Filter

theorem length_elements (filter : Filter) : filter.elements.length = filter.length := by
  fun_induction elements filter with
  | case1 node =>
      rfl
  | case2 left conjunction node ih =>
      rw [List.length_append, ih]
      rfl

/-!
# The fold
-/

section Records

variable [Pattern.Engine] {ρ : Type} [Record ρ] (record : ρ)

/-- The answer after one more element; an element without a conjunction would be joined by `and`. -/
def foldStep (held : Bool) (element : Option Conjunction × Node) : Bool :=
  (element.1.getD .and).combine held (element.2.holds record)

/-- The answer for elements in a row, which starts with that for the first of them. -/
def fold : List (Option Conjunction × Node) → Bool
  | [] => false
  | first :: rest => rest.foldl (foldStep record) (first.2.holds record)

theorem fold_append {front : List (Option Conjunction × Node)} (h : front ≠ [])
    (back : List (Option Conjunction × Node)) :
    fold record (front ++ back) = back.foldl (foldStep record) (fold record front) := by
  cases front with
  | nil =>
      exact absurd rfl h
  | cons first rest =>
      exact List.foldl_append

theorem holds_eq_fold (filter : Filter) : filter.holds record = fold record filter.elements := by
  fun_induction elements filter with
  | case1 node =>
      rfl
  | case2 left conjunction node ih =>
      rw [fold_append record (elements_ne_nil left), ← ih]
      rfl

end Records

/-!
# Groups around the first elements
-/

/-- A filter in which the first elements of another stand in a group of their own. -/
structure Regroups (filter : Filter) (count : Nat) (front regrouped : Filter) : Prop where
  inside : front.elements = filter.elements.take count
  outside : regrouped.elements = (none, .group front) :: filter.elements.drop count

theorem exists_regroups {filter : Filter} {count : Nat} (hpos : 0 < count)
    (hcount : count ≤ filter.length) : ∃ front regrouped, filter.Regroups count front regrouped := by
  fun_induction elements filter with
  | case1 node =>
      cases Nat.le_antisymm hcount hpos
      exact ⟨single node, ofGroup (single node), rfl, rfl⟩
  | case2 left conjunction node ih =>
      by_cases hleft : count ≤ left.length
      · rcases ih hleft with ⟨front, regrouped, hfront, hregrouped⟩
        rw [← length_elements] at hleft
        refine ⟨front, join regrouped conjunction node, ?_, ?_⟩
        · rw [hfront, elements, List.take_append_of_le_length hleft]
        · rw [elements, hregrouped, elements, List.drop_append_of_le_length hleft]
          rfl
      · -- No element is left over, so the whole filter goes into the group.
        have hall : (join left conjunction node).elements.length ≤ count := by
          rw [length_elements, length]
          omega
        refine ⟨join left conjunction node, ofGroup (join left conjunction node), ?_, ?_⟩
        · rw [List.take_of_length_le hall]
        · rw [List.drop_of_length_le hall]
          rfl

theorem Regroups.holds [Pattern.Engine] {filter front regrouped : Filter} {count : Nat}
    (h : filter.Regroups count front regrouped) {ρ : Type} [Record ρ] (record : ρ) :
    regrouped.holds record = filter.holds record := by
  have hfront : filter.elements.take count ≠ [] := by
    rw [← h.inside]
    exact elements_ne_nil front
  calc regrouped.holds record
      = (filter.elements.drop count).foldl (foldStep record) (front.holds record) := by
        rw [holds_eq_fold, h.outside]
        rfl
    _ = fold record (filter.elements.take count ++ filter.elements.drop count) := by
        rw [fold_append record hfront, holds_eq_fold, h.inside]
    _ = filter.holds record := by
        rw [List.take_append_drop, holds_eq_fold]

/-!
# Filters and what is added to them
-/

theorem joinClause_of_accept {clause : Clause} {node : Node} (h : accept clause = .ok node)
    (filter : Filter) (conjunction : Conjunction) :
    filter.joinClause conjunction clause = .ok (join filter conjunction (.clause clause)) := by
  have hnode := (accept_ok h).1
  rw [joinClause, h, hnode]
  rfl

/--
A filter holds if the fold over its elements, from left to right, comes out true.  What is added
to a filter, be it an accepted clause or a group, is combined with the answer for all that stands
in front of it, and a group holds alone as it holds inside.  So the first elements of a filter, as
many as one likes, can be put into a group: there is such a filter, and it holds of the same
records.
-/
theorem holds_left_to_right [Pattern.Engine] (filter : Filter) :
    (∀ (ρ : Type) [Record ρ] (record : ρ), filter.holds record = fold record filter.elements) ∧
    (∀ clause node, accept clause = .ok node → ∃ both either,
      filter.joinClause .and clause = .ok both ∧ filter.joinClause .or clause = .ok either ∧
      ∀ (ρ : Type) [Record ρ] (record : ρ),
        (both.holds record = true ↔ filter.holds record = true ∧ clause.holds record = true) ∧
        (either.holds record = true ↔ filter.holds record = true ∨ clause.holds record = true)) ∧
    (∀ (group : Filter) (ρ : Type) [Record ρ] (record : ρ),
      ((filter.joinGroup .and group).holds record = true ↔
        filter.holds record = true ∧ group.holds record = true) ∧
      ((filter.joinGroup .or group).holds record = true ↔
        filter.holds record = true ∨ group.holds record = true) ∧
      ((ofGroup group).holds record = true ↔ group.holds record = true)) ∧
    (∀ count, 0 < count → count ≤ filter.length →
      ∃ front regrouped, filter.Regroups count front regrouped) ∧
    ∀ count front regrouped, filter.Regroups count front regrouped →
      ∀ (ρ : Type) [Record ρ] (record : ρ), regrouped.holds record = filter.holds record := by
  refine ⟨fun _ _ record => filter.holds_eq_fold record, ?clauses, ?groups,
    fun _ => exists_regroups, fun _ _ _ h _ _ record => h.holds record⟩
  case clauses =>
      intro clause node haccept
      refine ⟨_, _, joinClause_of_accept haccept filter .and,
        joinClause_of_accept haccept filter .or, ?_⟩
      intro ρ _ record
      exact ⟨Conjunction.combine_and_iff, Conjunction.combine_or_iff⟩
  case groups =>
      intro group ρ _ record
      exact ⟨Conjunction.combine_and_iff, Conjunction.combine_or_iff, Iff.rfl⟩

def isNil (key : String) : Clause :=
  .complete (.target ⟨[key]⟩) .eq (.operand (.literal .nil))

def firstOrSecond : Filter :=
  join (single (.clause (isNil "a"))) .or (.clause (isNil "b"))

def onlyFirst : Json :=
  .object [("a", .null)]

/-- With a group around the last two elements instead, the filter would hold. -/
theorem holds_left_to_right_mixed :
    accept (isNil "c") = .ok (.clause (isNil "c")) ∧
    ∃ mixed front regrouped, firstOrSecond.joinClause .and (isNil "c") = .ok mixed ∧
      mixed.holds onlyFirst = false ∧ mixed.Regroups 2 front regrouped ∧
      regrouped.holds onlyFirst = false ∧
      (joinGroup (single (.clause (isNil "a"))) .or
        (join (single (.clause (isNil "b"))) .and (.clause (isNil "c")))).holds onlyFirst = true := by
  have haccept : accept (isNil "c") = .ok (.clause (isNil "c")) := rfl
  rcases holds_left_to_right firstOrSecond with ⟨-, hclauses, -, -, -⟩
  rcases hclauses _ _ haccept with ⟨mixed, _, hmixed, _, hholds⟩
  have hfalse : mixed.holds onlyFirst = false := by
    refine eq_false_of_ne_true fun htrue => ?_
    have hlast : (isNil "c").holds onlyFirst = true := ((hholds Json onlyFirst).1.mp htrue).2
    exact absurd hlast (by decide +kernel)
  have hlength : mixed.length = 3 := by
    cases hmixed
    rfl
  rcases holds_left_to_right mixed with ⟨-, -, -, hexists, hsame⟩
  rcases hexists 2 (by decide) (by rw [hlength]; decide) with ⟨front, regrouped, hregroups⟩
  refine ⟨haccept, mixed, front, regrouped, hmixed, hfalse, hregroups, ?_, by decide +kernel⟩
  rw [hsame 2 front regrouped hregroups, hfalse]

end Filter
end RecordFilter
