import RecordFilter.Json.Order
import RecordFilter.Proofs.Number.Rank

/-!
# The order of values

Each scalar type is ordered on its own, and values of different types or containers are not ordered
at all.  Within a type the order is total and transitive, and it finds equal what is equal.
-/

namespace RecordFilter
namespace Json

/-- Two values of one scalar type. -/
inductive SameScalar : Json → Json → Prop where
  | null : SameScalar .null .null
  | bool (a b : Bool) : SameScalar (.bool a) (.bool b)
  | number (m n : Number) : SameScalar (.number m) (.number n)
  | string (s t : String) : SameScalar (.string s) (.string t)

/-- The values are ordered, and the first does not come after the second. -/
def AtMost (a b : Json) : Prop :=
  (a.order? b).any Ordering.isLE = true

/-!
# Values that are ordered
-/

theorem SameScalar.symm {a b : Json} (h : a.SameScalar b) : b.SameScalar a := by
  cases h with
  | null => exact .null
  | bool a b => exact .bool b a
  | number m n => exact .number n m
  | string s t => exact .string t s

theorem sameScalar_of_order? {a b : Json} {o : Ordering} (h : a.order? b = some o) :
    a.SameScalar b := by
  unfold order? at h
  split at h
  · exact .number _ _
  · exact .string _ _
  · exact .bool _ _
  · exact .null
  · cases h

theorem exists_order?_iff {a b : Json} : (∃ o, a.order? b = some o) ↔ a.SameScalar b := by
  constructor
  · rintro ⟨o, h⟩
    exact sameScalar_of_order? h
  · intro h
    cases h <;> exact ⟨_, rfl⟩

theorem order?_eq_none {a b : Json} (h : ¬a.SameScalar b) : a.order? b = none := by
  cases horder : a.order? b with
  | none => rfl
  | some o => exact absurd (sameScalar_of_order? horder) h

/-!
# Laws
-/

theorem order?_swap (a b : Json) : b.order? a = (a.order? b).map Ordering.swap := by
  by_cases h : a.SameScalar b
  · cases h with
    | null => rfl
    | bool a b => exact congrArg some Std.OrientedOrd.eq_swap
    | number m n => exact congrArg some Std.OrientedCmp.eq_swap
    | string s t => exact congrArg some Std.OrientedOrd.eq_swap
  · rw [order?_eq_none h, order?_eq_none fun hsame => h hsame.symm]
    rfl

theorem AtMost.sameScalar {a b : Json} (h : a.AtMost b) : a.SameScalar b := by
  rcases (Option.any_eq_true _ _).mp h with ⟨o, horder, -⟩
  exact sameScalar_of_order? horder

theorem AtMost.trans {a b c : Json} (hab : a.AtMost b) (hbc : b.AtMost c) : a.AtMost c := by
  have hsame := hbc.sameScalar
  cases hab.sameScalar with
  | null =>
      exact hbc
  | bool x y =>
      cases hsame with
      | bool _ z => exact Std.TransOrd.isLE_trans (α := Bool) hab hbc
  | number m n =>
      cases hsame with
      | number _ k => exact show (m.compare k).isLE = true from Std.TransCmp.isLE_trans hab hbc
  | string s t =>
      cases hsame with
      | string _ u => exact Std.TransOrd.isLE_trans (α := String) hab hbc

/-- On scalars of one type, to come neither before nor after is to be equal. -/
theorem order?_eq_eq_iff {a b : Json} (h : a.SameScalar b) :
    a.order? b = some .eq ↔ a.equal b = true := by
  cases h with
  | null =>
      simp only [order?, equal]
  | bool x y =>
      rw [order?, equal, Option.some_inj, beq_iff_eq, Std.LawfulEqOrd.compare_eq_iff_eq]
  | number m n =>
      rw [order?, equal, Option.some_inj, beq_iff_eq]
  | string s t =>
      rw [order?, equal, Option.some_inj, beq_iff_eq, Std.LawfulEqOrd.compare_eq_iff_eq]

end Json
end RecordFilter
