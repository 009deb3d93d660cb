import RecordFilter.Clause.Builder
import RecordFilter.Proofs.Clause.Negation

/-!
# Objects of the wrong shape

Binding and applying both check the shape of the object, and ask for the same one.  They differ in
whom they blame: binding names the operator that was selected, while a negated operator is applied
through its base and lets the base complain.
-/

namespace RecordFilter
namespace Operator

/-!
# Mismatches
-/

section Mismatches

variable [Pattern.Engine]

/-- No rule for a family takes an object of another family, so the last one applies. -/
theorem applyBase_mismatch {operator : Operator} {object : Resolved}
    (h : object.family ≠ operator.family) (subject : Option Json) :
    operator.applyBase subject object =
      .error (.typeMismatch operator operator.family.objectShape object.shapeName) := by
  unfold applyBase
  split
  iterate 4
    · next hfamily =>
        exact absurd hfamily.symm h
  · rfl

theorem apply_mismatch {operator : Operator} {object : Resolved}
    (h : object.family ≠ operator.family) (subject : Option Json) :
    operator.apply subject object =
      .error (.typeMismatch operator.base operator.family.objectShape object.shapeName) := by
  have hbase : object.family ≠ operator.base.family := by
    rw [family_base]
    exact h
  rw [apply, applyBase_mismatch hbase, family_base]
  rfl

theorem apply_ok_iff {operator : Operator} {subject : Option Json} {object : Resolved} :
    (∃ holds, operator.apply subject object = .ok holds) ↔ object.family = operator.family := by
  constructor
  · rintro ⟨holds, h⟩
    by_contra hfamily
    rw [apply_mismatch hfamily] at h
    cases h
  · intro h
    exact apply_ok h subject

theorem apply_error_iff {operator : Operator} {subject : Option Json} {object : Resolved}
    {e : FilterError} :
    operator.apply subject object = .error e ↔ object.family ≠ operator.family ∧
      e = .typeMismatch operator.base operator.family.objectShape object.shapeName := by
  constructor
  · intro h
    have hfamily : object.family ≠ operator.family := by
      intro hfamily
      rcases apply_ok_iff.mpr hfamily with ⟨holds, hholds⟩
      rw [hholds] at h
      cases h
    rw [apply_mismatch hfamily] at h
    cases h
    exact ⟨hfamily, rfl⟩
  · rintro ⟨hfamily, rfl⟩
    exact apply_mismatch hfamily subject

end Mismatches

/-!
# Whom a mismatch blames
-/

theorem base_eq_self_iff {operator : Operator} :
    operator.base = operator ↔ ¬∃ base, operator.Negates base := by
  rw [← isNegated_iff]
  cases operator <;> decide

/--
An operator is applied with success to every object of its family, and to no other, whatever the
subject is.  To an object of another family it is applied with a mismatch, never with another
failure, and asks for the shape that it also asks for when such an object is bound.  But the
mismatch names the base, so it names the operator, as binding does, exactly if that negates none.
-/
theorem apply_blames_base [Pattern.Engine] (operator : Operator) (subject : Option Json)
    (object : Resolved) :
    ((∃ holds, operator.apply subject object = .ok holds) ↔ object.family = operator.family) ∧
    (∀ e, operator.apply subject object = .error e ↔ object.family ≠ operator.family ∧
      e = .typeMismatch operator.base operator.family.objectShape object.shapeName) ∧
    (∀ keyword, operator.apply subject object ≠ .error (.unknownOperator keyword)) ∧
    ∀ (side : Operand) (bound : Object), bound.family = object.family →
      object.family ≠ operator.family →
        (Clause.selected side operator).bind bound =
          .error (.typeMismatch operator operator.family.objectShape bound.shapeName) ∧
        ((∃ expected found,
          operator.apply subject object = .error (.typeMismatch operator expected found)) ↔
            ¬∃ base, operator.Negates base) := by
  refine ⟨apply_ok_iff, fun e => apply_error_iff, ?known, ?blamed⟩
  case known =>
      intro keyword h
      cases (apply_error_iff.mp h).2
  case blamed =>
      intro side bound hbound hfamily
      have hbind : bound.family ≠ operator.family := by
        rw [hbound]
        exact hfamily
      refine ⟨if_neg hbind, ?_⟩
      rw [← base_eq_self_iff, apply_mismatch hfamily]
      constructor
      · rintro ⟨expected, found, h⟩
        exact (FilterError.typeMismatch.inj (Except.error.inj h)).1
      · intro h
        rw [h]
        exact ⟨_, _, rfl⟩

/-- An absent operand has a shape as well, and a target that leads nowhere is bound as a target. -/
theorem apply_blames_base_absent :
    nlike.apply none (.value none) =
      .error (.typeMismatch .like "a pattern" "absent value") ∧
    (Clause.selected (.literal .nil) .nlike).bind (.operand (.target ⟨["a"]⟩)) =
      .error (.typeMismatch .nlike "a pattern" "target") := by
  have hfamily : Resolved.family (.value none) ≠ nlike.family := by decide
  rcases apply_blames_base .nlike none (.value none) with ⟨-, herror, -, hblamed⟩
  exact ⟨(herror _).mpr ⟨hfamily, rfl⟩,
    (hblamed (.literal .nil) (.operand (.target ⟨["a"]⟩)) rfl hfamily).1⟩

/-- The same null is refused in the name of two operators. -/
theorem apply_notIn_blames_isIn :
    notIn.apply (some .null) (.value (some .null)) =
      .error (.typeMismatch .isIn "an array" "nil") ∧
    (Clause.selected (.literal .nil) .notIn).bind (.operand (.literal .nil)) =
      .error (.typeMismatch .notIn "an array" "nil") :=
  ⟨rfl, rfl⟩

end Operator
end RecordFilter
