import RecordFilter.Proofs.Clause.Numbers
import RecordFilter.Proofs.Json.Order

/-!
# Operators on ordered values

The four operators that compare by order ask how their operands are ordered, and each of them
accepts some of the answers.  Operands that are not ordered satisfy none of them.
-/

namespace RecordFilter

namespace Operator

/-- The orders of subject and object under which the operator holds. -/
def accepts : Operator → Ordering → Bool
  | gt => Ordering.isGT
  | gte => Ordering.isGE
  | lt => Ordering.isLT
  | lte => Ordering.isLE
  | _ => fun _ => false

def byOrder : List Operator :=
  [gt, gte, lt, lte]

/-- The operator that holds when the operands change places. -/
def mirror : Operator → Operator
  | gt => lt
  | gte => lte
  | lt => gt
  | lte => gte
  | operator => operator

theorem mirror_mem_byOrder {operator : Operator} (h : operator ∈ byOrder) :
    operator.mirror ∈ byOrder := by
  cases operator <;> revert h <;> decide

theorem accepts_mirror_swap {operator : Operator} (h : operator ∈ byOrder) (o : Ordering) :
    operator.mirror.accepts o.swap = operator.accepts o := by
  cases operator <;> cases o <;> revert h <;> decide

variable [Pattern.Engine]

theorem apply_byOrder {operator : Operator} (h : operator ∈ byOrder) (a b : Json) :
    operator.apply (some a) (.value (some b)) = .ok ((a.order? b).any operator.accepts) := by
  have hcases : operator = gt ∨ operator = gte ∨ operator = lt ∨ operator = lte := by
    simpa [byOrder] using h
  rcases hcases with rfl | rfl | rfl | rfl
  all_goals
    simp only [apply, applyBase, base, family, relates?, isNegated, accepts]
    cases a.order? b with
    | none =>
        rfl
    | some o =>
        cases o <;> rfl

theorem apply_mirror {operator : Operator} (h : operator ∈ byOrder) (a b : Json) :
    operator.mirror.apply (some b) (.value (some a)) =
      operator.apply (some a) (.value (some b)) := by
  rw [apply_byOrder h, apply_byOrder (mirror_mem_byOrder h), Json.order?_swap a b, Option.any_map]
  simp only [accepts_mirror_swap h]

theorem apply_eq (a b : Json) : eq.apply (some a) (.value (some b)) = .ok (a.equal b) :=
  rfl

/-- A greater or equal value is a greater one or an equal one of the same type. -/
theorem gte_decides (a b : Json) :
    gte.Decides a (.value (some b))
      (gt.apply (some a) (.value (some b)) = .ok true ∨
        a.SameScalar b ∧ eq.apply (some a) (.value (some b)) = .ok true) := by
  refine ⟨_, apply_byOrder (by decide) a b, ?_⟩
  rw [apply_byOrder (by decide), apply_eq, Except.ok.injEq, Except.ok.injEq]
  by_cases hsame : a.SameScalar b
  · rcases Json.exists_order?_iff.mpr hsame with ⟨o, horder⟩
    rw [← Json.order?_eq_eq_iff hsame, horder]
    cases o <;> simp [accepts, hsame]
  · rw [Json.order?_eq_none hsame]
    simp [hsame]

end Operator

/-!
# Total preorders

The scalars of each type are totally preordered, and the values that come neither before nor after
each other are those that are equal.  The numbers are one such type, although not all of them are
compared in the same way.
-/

namespace Json

/--
To exchange two values reverses their order; the values of one scalar type are ordered and no
others; the order is transitive and agrees with equality.  So the operators that compare by order
can be exchanged together with their operands, and to be greater or equal is what it says.
-/
theorem order?_total_preorder [Pattern.Engine] :
    (∀ a b : Json, b.order? a = (a.order? b).map Ordering.swap) ∧
    (∀ a b : Json, (∃ o, a.order? b = some o) ↔ a.SameScalar b) ∧
    (∀ a b c : Json, a.AtMost b → b.AtMost c → a.AtMost c) ∧
    (∀ a b : Json, a.SameScalar b → (a.order? b = some .eq ↔ a.equal b = true)) ∧
    (∀ a b : Json, ∃ holds, Operator.gt.apply (some a) (.value (some b)) = .ok holds ∧
      Operator.lt.apply (some b) (.value (some a)) = .ok holds) ∧
    (∀ a b : Json, ∃ holds, Operator.gte.apply (some a) (.value (some b)) = .ok holds ∧
      Operator.lte.apply (some b) (.value (some a)) = .ok holds) ∧
    (∀ a b : Json, Operator.gte.Decides a (.value (some b))
      (Operator.gt.apply (some a) (.value (some b)) = .ok true ∨
        a.SameScalar b ∧ Operator.eq.apply (some a) (.value (some b)) = .ok true)) := by
  refine ⟨order?_swap, fun _ _ => exists_order?_iff, fun _ _ _ => AtMost.trans,
    fun _ _ => order?_eq_eq_iff, ?strict, ?weak, Operator.gte_decides⟩
  case strict =>
      intro a b
      have hmem : Operator.gt ∈ Operator.byOrder := by decide
      have hgt := Operator.apply_byOrder hmem a b
      exact ⟨_, hgt, (Operator.apply_mirror hmem a b).trans hgt⟩
  case weak =>
      intro a b
      have hmem : Operator.gte ∈ Operator.byOrder := by decide
      have hgte := Operator.apply_byOrder hmem a b
      exact ⟨_, hgte, (Operator.apply_mirror hmem a b).trans hgte⟩

def oneHalf : Number :=
  .float ⟨false, ⟨0x10000000000000, -53⟩, by decide⟩

/-- The greatest double that has a decimal. -/
def lastDecimal : Number :=
  .float ⟨false, ⟨0x1fffffffffffff, 43⟩, by decide⟩

/-- The double above it, which is compared as a double with every other. -/
def beyondDecimals : Number :=
  .float ⟨false, ⟨0x10000000000000, 44⟩, by decide⟩

theorem order?_total_preorder_beyondDecimals :
    lastDecimal.decimal?.isSome = true ∧ beyondDecimals.decimal? = none ∧
    (number oneHalf).AtMost (number lastDecimal) ∧
    (number lastDecimal).AtMost (number beyondDecimals) ∧
    (number oneHalf).AtMost (number beyondDecimals) ∧
    (number lastDecimal).equal (number beyondDecimals) = false := by
  rcases order?_total_preorder with ⟨-, -, htrans, hequal, -, -, -⟩
  have hfirst : (number oneHalf).AtMost (number lastDecimal) := by
    unfold AtMost
    decide +kernel
  have hsecond : (number lastDecimal).AtMost (number beyondDecimals) := by
    unfold AtMost
    decide +kernel
  have hless : (number lastDecimal).order? (number beyondDecimals) = some .lt := by
    decide +kernel
  refine ⟨by decide +kernel, by decide +kernel, hfirst, hsecond,
    htrans _ _ _ hfirst hsecond, ?_⟩
  have hdistinct := (hequal _ _ (.number lastDecimal beyondDecimals)).not.mp (by rw [hless]; decide)
  exact eq_false_of_ne_true hdistinct

end Json
end RecordFilter
