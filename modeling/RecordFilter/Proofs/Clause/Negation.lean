import RecordFilter.Proofs.Clause.Evaluation
import RecordFilter.Proofs.Pattern.Engine
import RecordFilter.Proofs.Record

/-!
# Negated operators

A negated operator is applied by applying its base, and the answer is turned round.  What is absent
satisfies no base, so that it satisfies the negated operators and no others.
-/

namespace RecordFilter

namespace Operator

/-- The pairs of an operator that negates and the operator that it negates. -/
inductive Negates : Operator → Operator → Prop where
  | equality : Negates neq eq
  | membership : Negates notIn isIn
  | range : Negates nbetween between
  | pattern : Negates nlike like

theorem isNegated_iff {operator : Operator} :
    operator.isNegated = true ↔ ∃ base, operator.Negates base := by
  constructor
  · intro h
    cases operator with
    | neq => exact ⟨eq, .equality⟩
    | notIn => exact ⟨isIn, .membership⟩
    | nbetween => exact ⟨between, .range⟩
    | nlike => exact ⟨like, .pattern⟩
    | eq | gt | gte | lt | lte | isIn | between | like => cases h
  · rintro ⟨base, h⟩
    cases h <;> rfl

variable [Pattern.Engine]

/-- Both go through the same application, and fail alike where it fails. -/
theorem Negates.apply_eq {negated base : Operator} (h : negated.Negates base)
    (subject : Option Json) (object : Resolved) :
    negated.apply subject object = (base.apply subject object).map fun holds => !holds := by
  cases h
  all_goals
    unfold apply
    simp only [Operator.base, isNegated]
    cases applyBase _ subject object <;> rfl

theorem apply_absent {operator : Operator} {subject : Option Json} {object : Resolved}
    (h : object.family = operator.family) (habsent : subject = none ∨ object = .value none) :
    operator.apply subject object = .ok operator.isNegated := by
  rw [apply, applyBase_absent h habsent, Except.map]
  cases operator.isNegated <;> rfl

end Operator

/-!
# Clauses
-/

section Records

variable [Pattern.Engine] {ρ : Type} [Record ρ] (record : ρ)

namespace Clause

theorem evaluate_negated {negated base : Operator} (h : negated.Negates base) (subject : Operand)
    {object : Object} (hfamily : object.family = base.family) :
    ∃ holds, (complete subject base object).evaluate record = .ok holds ∧
      (complete subject negated object).evaluate record = .ok !holds := by
  have hresolved : (object.resolve record).family = base.family := by
    rw [Object.family_resolve, hfamily]
  rcases Operator.apply_ok hresolved (subject.resolve? record) with ⟨holds, hholds⟩
  refine ⟨holds, hholds, ?_⟩
  show negated.apply (subject.resolve? record) (object.resolve record) = .ok !holds
  rw [h.apply_eq, hholds, Except.map]

/-- A pattern whose expression is refused matches nothing, and no failure comes of it. -/
theorem evaluate_like_of_not_compiles (subject : Operand) {pattern : Pattern}
    (h : pattern.compiles = false) :
    (complete subject .like (.pattern pattern)).evaluate record = .ok false := by
  show Except.ok ((subject.resolve? record).any pattern.matchesValue) = Except.ok false
  rw [funext (Pattern.matchesValue_of_not_compiles h), Option.any_false]

theorem evaluate_absent {operator : Operator} {target : Target} {subject : Operand}
    {object : Object} (hfamily : object.family = operator.family)
    (hnone : Record.resolve? record target = none)
    (htarget : subject = .target target ∨ object = .operand (.target target)) :
    (complete subject operator object).evaluate record = .ok operator.isNegated := by
  have hresolved : (object.resolve record).family = operator.family := by
    rw [Object.family_resolve, hfamily]
  refine Operator.apply_absent hresolved ?_
  rcases htarget with rfl | rfl
  · exact Or.inl hnone
  · exact Or.inr (congrArg Resolved.value hnone)

theorem evaluate_eq_nil (subject : Operand) :
    ∃ holds, (complete subject .eq (.operand (.literal .nil))).evaluate record = .ok holds ∧
      (holds = true ↔ subject.resolve? record = some .null) := by
  cases hsubject : subject.resolve? record with
  | none =>
      refine ⟨false, ?_, by simp⟩
      show Operator.eq.apply (subject.resolve? record) _ = _
      rw [hsubject]
      rfl
  | some value =>
      refine ⟨value.equal .null, ?_, ?_⟩
      · show Operator.eq.apply (subject.resolve? record) _ = _
        rw [hsubject]
        rfl
      · cases value <;> simp [Json.equal]

end Clause
end Records

/-!
# Negation and absence
-/

namespace Clause

/--
A clause with a negated operator evaluates to the opposite of the clause with its base, also if its
pattern cannot be built.  Where one of the operands is absent, a clause holds exactly if its
operator is negated.  Absent is what the segments of a target lead to no place for; a null that
they lead to is present, and equal to nil.
-/
theorem evaluate_negated_absent [Pattern.Engine] :
    (∀ (ρ : Type) [Record ρ] (record : ρ),
      (∀ negated base : Operator, negated.Negates base →
        ∀ (subject : Operand) (object : Object), object.family = base.family →
          ∃ holds, (complete subject base object).evaluate record = .ok holds ∧
            (complete subject negated object).evaluate record = .ok !holds) ∧
      (∀ (subject : Operand) (pattern : Pattern), pattern.compiles = false →
        (complete subject .like (.pattern pattern)).evaluate record = .ok false ∧
          (complete subject .nlike (.pattern pattern)).evaluate record = .ok true) ∧
      (∀ (operator : Operator) (target : Target) (subject : Operand) (object : Object),
        object.family = operator.family → Record.resolve? record target = none →
        subject = .target target ∨ object = .operand (.target target) →
          ∃ holds, (complete subject operator object).evaluate record = .ok holds ∧
            (holds = true ↔ ∃ base, operator.Negates base)) ∧
      (∀ subject : Operand, ∃ holds,
        (complete subject .eq (.operand (.literal .nil))).evaluate record = .ok holds ∧
          (holds = true ↔ subject.resolve? record = some .null))) ∧
    (∀ (value : Json) (target : Target), Record.resolve? value target = none ↔
      ¬∃ place, value.Leads target.segments place) ∧
    (∀ (members : Json.Members) (target : Target), Record.resolve? members target = none ↔
      ¬∃ place, (Json.object members).Leads target.segments place) := by
  refine ⟨?clauses, fun _ _ => Json.atPointer?_eq_none_iff, ?members⟩
  case clauses =>
      intro ρ _ record
      refine ⟨fun _ _ h subject _ => evaluate_negated record h subject, ?patterns, ?absent,
        evaluate_eq_nil record⟩
      case patterns =>
          intro subject pattern hpattern
          have hlike := evaluate_like_of_not_compiles record subject hpattern
          have hfamily : Object.family (.pattern pattern) = Operator.like.family := rfl
          rcases evaluate_negated record .pattern subject hfamily with ⟨holds, hbase, hnegated⟩
          cases Except.ok.inj (hbase.symm.trans hlike)
          exact ⟨hlike, hnegated⟩
      case absent =>
          intro operator target subject object hfamily hnone htarget
          exact ⟨_, evaluate_absent record hfamily hnone htarget, Operator.isNegated_iff⟩
  case members =>
      intro members target
      show members.resolve? target = none ↔ _
      rw [Json.Members.resolve?_eq, Json.atPointer?_eq_none_iff]

def nullMember : Json :=
  .object [("a", .null), ("b", .array [.null])]

theorem evaluate_negated_absent_nullMember :
    (complete (.target ⟨["a"]⟩) .neq (.operand (.literal .nil))).evaluate nullMember = .ok false ∧
    (complete (.target ⟨["b", "00"]⟩) .neq (.operand (.literal .nil))).evaluate nullMember =
      .ok true ∧
    (complete (.literal .nil) .gte (.operand (.target ⟨["a", "b"]⟩))).evaluate nullMember =
      .ok false ∧
    (complete (.target ⟨["a"]⟩) .nlike
      (.pattern ⟨String.ofList (List.replicate Pattern.dotLimit '_')⟩)).evaluate nullMember =
        .ok true := by
  rcases evaluate_negated_absent.1 Json nullMember with ⟨hnegated, hpatterns, habsent, -⟩
  refine ⟨?null, ?index, ?scalar, (hpatterns _ _ (by rw [Pattern.compiles_wildcards]; decide)).2⟩
  case null =>
      rcases hnegated .neq .eq .equality (.target ⟨["a"]⟩) (.operand (.literal .nil)) rfl with
        ⟨holds, hbase, hneq⟩
      cases hbase
      exact hneq
  case index =>
      rcases habsent .neq ⟨["b", "00"]⟩ (.target ⟨["b", "00"]⟩) (.operand (.literal .nil)) rfl
        (by decide +kernel) (Or.inl rfl) with ⟨holds, hevaluate, hholds⟩
      rw [hevaluate, hholds.mpr ⟨.eq, .equality⟩]
  case scalar =>
      rcases habsent .gte ⟨["a", "b"]⟩ (.literal .nil) (.operand (.target ⟨["a", "b"]⟩)) rfl
        (by decide +kernel) (Or.inr rfl) with ⟨holds, hevaluate, hholds⟩
      have hfalse : ¬holds = true := fun h => nomatch hholds.mp h
      rw [hevaluate, eq_false_of_ne_true hfalse]

end Clause
end RecordFilter
