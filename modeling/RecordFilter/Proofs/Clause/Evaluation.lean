import RecordFilter.Clause.Evaluation

/-!
# Evaluation succeeds

An operator fails to be applied only to an object of another family.  An absent operand is no
failure: no operator that is its own base holds of it.
-/

namespace RecordFilter

namespace Operator

theorem family_base (operator : Operator) : operator.base.family = operator.family := by
  cases operator <;> rfl

/-- The base of a comparison names a relation. -/
theorem exists_relates?_base {operator : Operator} (h : operator.family = .comparison)
    (left right : Json) : ∃ holds, operator.base.relates? left right = some holds := by
  cases operator with
  | eq | neq | gt | gte | lt | lte =>
      exact ⟨_, rfl⟩
  | isIn | notIn | between | nbetween | like | nlike =>
      cases h

variable [Pattern.Engine]

theorem applyBase_ok {operator : Operator} {object : Resolved}
    (h : object.family = operator.family) (subject : Option Json) :
    ∃ holds, operator.base.applyBase subject object = .ok holds := by
  have hbase : operator.base.family = object.family := by
    rw [family_base, h]
  unfold applyBase
  rw [hbase]
  cases object with
  | value value =>
      cases subject with
      | none =>
          exact ⟨false, rfl⟩
      | some left =>
          cases value with
          | none =>
              exact ⟨false, rfl⟩
          | some right =>
              rcases exists_relates?_base h.symm left right with ⟨holds, hholds⟩
              refine ⟨holds, ?_⟩
              simp only [Resolved.family, hholds]
  | array items | range range | pattern pattern =>
      exact ⟨_, rfl⟩

theorem applyBase_absent {operator : Operator} {subject : Option Json} {object : Resolved}
    (h : object.family = operator.family) (habsent : subject = none ∨ object = .value none) :
    operator.base.applyBase subject object = .ok false := by
  have hbase : operator.base.family = object.family := by
    rw [family_base, h]
  unfold applyBase
  rw [hbase]
  rcases habsent with rfl | rfl
  · cases object <;> rfl
  · cases subject <;> rfl

theorem apply_ok {operator : Operator} {object : Resolved} (h : object.family = operator.family)
    (subject : Option Json) : ∃ holds, operator.apply subject object = .ok holds := by
  rcases applyBase_ok h subject with ⟨holds, hholds⟩
  unfold apply
  rw [hholds]
  exact ⟨_, rfl⟩

end Operator

section Records

variable {ρ : Type} [Record ρ]

theorem Object.family_resolve (record : ρ) (object : Object) :
    (object.resolve record).family = object.family := by
  cases object <;> rfl

end Records
end RecordFilter
