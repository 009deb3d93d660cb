import Mathlib.Data.List.Forall2
import RecordFilter.Proofs.Query.Contents
import RecordFilter.Proofs.Range

/-!
# Equal filters

Equality as data is reflexive on every level, and filters that are equal have equal clauses in the
same places.  Targets have only one form, so these are the same.
-/

namespace RecordFilter

/-!
# Reflexivity
-/

instance : ReflBEq Number where
  rfl := Number.same_refl _

instance : ReflBEq Literal where
  rfl {value} := by
    cases value with
    | nil =>
        rfl
    | boolean b =>
        exact beq_self_eq_true b
    | number n =>
        exact beq_self_eq_true n
    | string s =>
        exact beq_self_eq_true s

instance : ReflBEq Bound where
  rfl {bound} := by
    cases bound with
    | unbounded =>
        rfl
    | number n =>
        exact beq_self_eq_true n
    | string s =>
        exact beq_self_eq_true s

instance : ReflBEq Range where
  rfl {range} := by
    show (range.lower == range.lower && range.upper == range.upper) = true
    rw [beq_self_eq_true, beq_self_eq_true]
    rfl

instance : ReflBEq Operand where
  rfl {operand} := by
    cases operand with
    | target t =>
        exact beq_self_eq_true t
    | literal value =>
        exact beq_self_eq_true value

instance : ReflBEq Object where
  rfl {object} := by
    cases object with
    | operand o =>
        exact beq_self_eq_true o
    | array items =>
        exact beq_self_eq_true items
    | range r =>
        exact beq_self_eq_true r
    | pattern p =>
        exact beq_self_eq_true p

instance : ReflBEq Clause where
  rfl {clause} := by
    cases clause with
    | started subject =>
        exact beq_self_eq_true subject
    | selected subject operator =>
        show (subject == subject && operator == operator) = true
        rw [beq_self_eq_true, beq_self_eq_true]
        rfl
    | complete subject operator object =>
        show (subject == subject && operator == operator && object == object) = true
        rw [beq_self_eq_true, beq_self_eq_true, beq_self_eq_true]
        rfl

mutual

theorem Node.same_self : ∀ node : Node, (node == node) = true
  | .clause clause => beq_self_eq_true clause
  | .group filter => Filter.same_self filter

theorem Filter.same_self : ∀ filter : Filter, (filter == filter) = true
  | .single node => Node.same_self node
  | .join left conjunction node => by
      show (left == left && conjunction == conjunction && node == node) = true
      rw [Filter.same_self left, Node.same_self node, beq_self_eq_true]
      rfl

end

/-!
# Clauses of equal filters
-/

mutual

theorem Node.clauses_same : ∀ {m n : Node}, (m == n) = true →
    List.Forall₂ (fun a b => (a == b) = true) m.clauses n.clauses
  | .clause _, .clause _, h => .cons h .nil
  | .group _, .group _, h => Filter.clauses_same h
  | .clause _, .group _, h => by
      cases h
  | .group _, .clause _, h => by
      cases h

theorem Filter.clauses_same : ∀ {f g : Filter}, (f == g) = true →
    List.Forall₂ (fun a b => (a == b) = true) f.clauses g.clauses
  | .single _, .single _, h => Node.clauses_same h
  | .join left conjunction m, .join left' conjunction' n, h => by
      have hparts : (left == left' && conjunction == conjunction' && m == n) = true := h
      rw [Bool.and_eq_true, Bool.and_eq_true] at hparts
      exact List.rel_append (Filter.clauses_same hparts.1.1) (Node.clauses_same hparts.2)
  | .single _, .join _ _ _, h => by
      cases h
  | .join _ _ _, .single _, h => by
      cases h

end

/-!
# Targets of equal filters
-/

theorem Operand.targets_eq_of_same {a b : Operand} (h : (a == b) = true) :
    a.targets = b.targets := by
  cases a with
  | target t =>
      cases b with
      | target u =>
          have htarget : t = u := eq_of_beq h
          rw [htarget]
      | literal value =>
          cases h
  | literal value =>
      cases b with
      | target u =>
          cases h
      | literal value' =>
          rfl

theorem Object.targets_eq_of_same {a b : Object} (h : (a == b) = true) :
    a.targets = b.targets := by
  cases a <;> cases b
  case operand.operand =>
      exact Operand.targets_eq_of_same h
  all_goals
    first
    | rfl
    | cases h

theorem Clause.targets_eq_of_same {a b : Clause} (h : (a == b) = true) :
    a.targets = b.targets := by
  cases a <;> cases b
  case started.started subject subject' =>
      have hsubject := Operand.targets_eq_of_same h
      simpa [targets, Clause.subject, object?] using hsubject
  case selected.selected subject operator subject' operator' =>
      have hparts : (subject == subject' && operator == operator') = true := h
      rw [Bool.and_eq_true] at hparts
      have hsubject := Operand.targets_eq_of_same hparts.1
      simpa [targets, Clause.subject, object?] using hsubject
  case complete.complete subject operator object subject' operator' object' =>
      have hparts : (subject == subject' && operator == operator' && object == object') = true := h
      rw [Bool.and_eq_true, Bool.and_eq_true] at hparts
      rw [targets_complete, targets_complete, Operand.targets_eq_of_same hparts.1.1,
        Object.targets_eq_of_same hparts.2]
  all_goals cases h

theorem Filter.targets_eq_of_same {f g : Filter} (h : (f == g) = true) :
    f.targets = g.targets := by
  have hclauses := Filter.clauses_same h
  unfold Filter.targets
  generalize f.clauses = front at hclauses
  generalize g.clauses = back at hclauses
  induction hclauses with
  | nil =>
      rfl
  | cons hclause _ ih =>
      rw [List.flatMap_cons, List.flatMap_cons, Clause.targets_eq_of_same hclause, ih]

end RecordFilter
