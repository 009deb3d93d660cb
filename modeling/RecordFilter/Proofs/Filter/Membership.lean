import RecordFilter.Proofs.Clause.Negation
import RecordFilter.Proofs.Filter.Folding

/-!
# Lists as chains of comparisons

To be in a list is to be equal to one of its literals, and to be outside of it is to differ from
all of them.  The operator searches the list with the subject that it is given, while a chain of
comparisons looks the subject up in every clause and folds the answers.
-/

namespace RecordFilter

namespace Clause

/-- Compares a subject with a literal, by the calls of the builder. -/
def comparing (subject : Operand) (operator : Operator) (literal : Literal) :
    Except FilterError Clause := do
  let selected ← (Clause.ofOperand subject).select operator
  selected.bindLiteral literal

theorem comparing_eq {operator : Operator} (h : operator.family = .comparison) (subject : Operand)
    (literal : Literal) :
    comparing subject operator literal =
      .ok (complete subject operator (.operand (.literal literal))) := by
  show (Clause.selected subject operator).bind (.operand (.literal literal)) = _
  exact if_pos h.symm

end Clause

namespace Filter

/-- A chain of comparisons of a subject with some literals, at least one, in their order. -/
def comparingAll (subject : Operand) (operator : Operator) (conjunction : Conjunction)
    (first : Literal) (rest : List Literal) : Except FilterError Filter := do
  let clause ← Clause.comparing subject operator first
  let start ← Filter.ofClause clause
  rest.foldlM (fun filter literal => do
    let clause ← Clause.comparing subject operator literal
    filter.joinClause conjunction clause) start

section Chains

variable {subject : Operand} {operator : Operator}

theorem accept_comparison (hroot : subject.isRoot = false) (literal : Literal) :
    accept (.complete subject operator (.operand (.literal literal))) =
      .ok (.clause (.complete subject operator (.operand (.literal literal)))) := by
  have hfree : (Clause.complete subject operator (.operand (.literal literal))).hasRoot = false := by
    rw [Clause.hasRoot_complete, hroot]
    rfl
  rw [accept, hfree]
  rfl

/-- Nothing in such a chain is refused. -/
theorem comparingAll_eq (hroot : subject.isRoot = false) (hfamily : operator.family = .comparison)
    (conjunction : Conjunction) (first : Literal) (rest : List Literal) :
    comparingAll subject operator conjunction first rest =
      .ok (rest.foldl (fun filter literal => join filter conjunction
          (.clause (.complete subject operator (.operand (.literal literal)))))
        (single (.clause (.complete subject operator (.operand (.literal first)))))) := by
  have hstep : (fun (filter : Filter) (literal : Literal) => do
      let clause ← Clause.comparing subject operator literal
      filter.joinClause conjunction clause) =
      fun filter literal => (pure (join filter conjunction
        (.clause (.complete subject operator (.operand (.literal literal))))) :
          Except FilterError Filter) := by
    funext filter literal
    rw [Clause.comparing_eq hfamily]
    exact joinClause_of_accept (accept_comparison hroot literal) filter conjunction
  have hstart : Filter.ofClause (.complete subject operator (.operand (.literal first))) =
      .ok (single (.clause (.complete subject operator (.operand (.literal first))))) := by
    rw [Filter.ofClause, accept_comparison hroot]
    rfl
  rw [comparingAll, Clause.comparing_eq hfamily, hstep]
  show (Filter.ofClause _ >>= fun start => List.foldlM _ start rest) = _
  rw [hstart]
  exact List.foldlM_pure

end Chains

/-!
# Answers for chains
-/

section Records

variable [Pattern.Engine] {ρ : Type} [Record ρ] (record : ρ)

/-- The clauses of a chain are asked one after the other. -/
theorem holds_chain (clauseOf : Literal → Clause) (conjunction : Conjunction) (filter : Filter)
    (literals : List Literal) :
    (literals.foldl (fun filter literal => join filter conjunction (.clause (clauseOf literal)))
      filter).holds record =
      literals.foldl (fun held literal => conjunction.combine held ((clauseOf literal).holds record))
        (filter.holds record) :=
  (List.foldl_hom (fun filter : Filter => filter.holds record) fun _ _ => rfl).symm

end Records

end Filter

namespace Conjunction

theorem foldl_combine_or {α : Type} (holds : α → Bool) (items : List α) (held : Bool) :
    items.foldl (fun held item => or.combine held (holds item)) held = (held || items.any holds) := by
  induction items generalizing held with
  | nil =>
      exact (Bool.or_false held).symm
  | cons item items ih =>
      rw [List.foldl_cons, ih, List.any_cons, ← Bool.or_assoc]
      rfl

theorem foldl_combine_and {α : Type} (holds : α → Bool) (items : List α) (held : Bool) :
    items.foldl (fun held item => and.combine held (holds item)) held =
      (held && items.all holds) := by
  induction items generalizing held with
  | nil =>
      exact (Bool.and_true held).symm
  | cons item items ih =>
      rw [List.foldl_cons, ih, List.all_cons, ← Bool.and_assoc]
      rfl

end Conjunction

/-!
# Answers for lists
-/

namespace Clause

section Records

variable [Pattern.Engine] {ρ : Type} [Record ρ] (record : ρ) (subject : Operand)

theorem holds_eq_literal (literal : Literal) :
    (complete subject .eq (.operand (.literal literal))).holds record =
      (subject.resolve? record).any fun value => value.equal literal.toJson := by
  have hevaluate : (complete subject .eq (.operand (.literal literal))).evaluate record =
      Operator.eq.apply (subject.resolve? record) (.value (some literal.toJson)) := rfl
  rw [holds, hevaluate]
  cases subject.resolve? record <;> rfl

theorem holds_neq_literal (literal : Literal) :
    (complete subject .neq (.operand (.literal literal))).holds record =
      !(complete subject .eq (.operand (.literal literal))).holds record := by
  have hfamily : Object.family (.operand (.literal literal)) = Operator.eq.family := rfl
  rcases evaluate_negated record .equality subject hfamily with ⟨held, heq, hneq⟩
  rw [holds, holds, heq, hneq]

/-- An absent subject is in no list, and equal to no literal. -/
theorem evaluate_isIn (items : List Literal) :
    (complete subject .isIn (.array items)).evaluate record =
      .ok (items.any fun literal =>
        (complete subject .eq (.operand (.literal literal))).holds record) := by
  have hevaluate : (complete subject .isIn (.array items)).evaluate record =
      .ok ((subject.resolve? record).any fun value =>
        items.any fun item => value.equal item.toJson) := rfl
  rw [hevaluate]
  simp only [holds_eq_literal]
  cases subject.resolve? record with
  | none =>
      simp
  | some value =>
      rfl

theorem evaluate_notIn (items : List Literal) :
    (complete subject .notIn (.array items)).evaluate record =
      .ok (items.all fun literal =>
        (complete subject .neq (.operand (.literal literal))).holds record) := by
  have hfamily : Object.family (.array items) = Operator.isIn.family := rfl
  rcases evaluate_negated record .membership subject hfamily with ⟨held, hisIn, hnotIn⟩
  rw [evaluate_isIn, Except.ok.injEq] at hisIn
  rw [hnotIn, ← hisIn, List.not_any_eq_all_not]
  simp only [holds_neq_literal]

end Records

end Clause

/-!
# Lists and chains
-/

namespace Clause

/--
Unless the subject is the root, it can be compared with the literals of a list in a chain, where a
record satisfies the membership in the list exactly if it satisfies the chain: of equalities joined
by `or` for being in the list, and of inequalities joined by `and` for not being in it.  Nothing is
in the empty list.  The answers depend on which literals are in the list, and not on their order
or on how often they are repeated.
-/
theorem membership_as_comparisons [Pattern.Engine] (subject : Operand) :
    (subject.isRoot = false → ∀ (first : Literal) (rest : List Literal), ∃ equalsOne differs,
      Filter.comparingAll subject .eq .or first rest = .ok equalsOne ∧
      Filter.comparingAll subject .neq .and first rest = .ok differs ∧
      ∀ (ρ : Type) [Record ρ] (record : ρ),
        (complete subject .isIn (.array (first :: rest))).evaluate record =
          .ok (equalsOne.holds record) ∧
        (complete subject .notIn (.array (first :: rest))).evaluate record =
          .ok (differs.holds record)) ∧
    ∀ (ρ : Type) [Record ρ] (record : ρ),
      (complete subject .isIn (.array [])).evaluate record = .ok false ∧
      (complete subject .notIn (.array [])).evaluate record = .ok true ∧
      ∀ items items' : List Literal, (∀ literal, literal ∈ items ↔ literal ∈ items') →
        (complete subject .isIn (.array items)).evaluate record =
          (complete subject .isIn (.array items')).evaluate record ∧
        (complete subject .notIn (.array items)).evaluate record =
          (complete subject .notIn (.array items')).evaluate record := by
  constructor
  · intro hroot first rest
    refine ⟨_, _, Filter.comparingAll_eq hroot rfl .or first rest,
      Filter.comparingAll_eq hroot rfl .and first rest, ?_⟩
    intro ρ _ record
    constructor
    · rw [evaluate_isIn, List.any_cons, Filter.holds_chain, Conjunction.foldl_combine_or]
      rfl
    · rw [evaluate_notIn, List.all_cons, Filter.holds_chain, Conjunction.foldl_combine_and]
      rfl
  · intro ρ _ record
    refine ⟨evaluate_isIn record subject [], evaluate_notIn record subject [], ?_⟩
    intro items items' hsame
    have hany : ∀ test : Literal → Bool, items.any test = items'.any test := by
      intro test
      rw [Bool.eq_iff_iff, List.any_eq_true, List.any_eq_true]
      simp only [hsame]
    have hall : ∀ test : Literal → Bool, items.all test = items'.all test := by
      intro test
      rw [Bool.eq_iff_iff, List.all_eq_true, List.all_eq_true]
      simp only [hsame]
    constructor
    · rw [evaluate_isIn, evaluate_isIn, hany]
    · rw [evaluate_notIn, evaluate_notIn, hall]

def floatSeven : Literal :=
  .number (.float ⟨false, ⟨0x1c000000000000, -50⟩, by decide⟩)

def sevenMember : Json :=
  .object [("a", .number (.integer 7 (by decide)))]

/-- The integer 7 is in a list with the float 7.0, wherever that stands and however often. -/
theorem membership_as_comparisons_floatSeven :
    Operand.isRoot (.target ⟨["a"]⟩) = false ∧
    ∃ equalsOne differs,
      Filter.comparingAll (.target ⟨["a"]⟩) .eq .or .nil [floatSeven] = .ok equalsOne ∧
      Filter.comparingAll (.target ⟨["a"]⟩) .neq .and .nil [floatSeven] = .ok differs ∧
      equalsOne.holds sevenMember = true ∧ differs.holds sevenMember = false ∧
      (complete (.target ⟨["a"]⟩) .isIn (.array [floatSeven, .nil, floatSeven])).evaluate
        sevenMember = .ok true := by
  have hroot : Operand.isRoot (.target ⟨["a"]⟩) = false := rfl
  rcases membership_as_comparisons (.target ⟨["a"]⟩) with ⟨hchains, hlists⟩
  rcases hchains hroot .nil [floatSeven] with ⟨equalsOne, differs, hequals, hdiffers, hsame⟩
  rcases hsame Json sevenMember with ⟨hisIn, hnotIn⟩
  have htrue : (complete (.target ⟨["a"]⟩) .isIn (.array [.nil, floatSeven])).evaluate sevenMember =
      .ok true := by
    decide +kernel
  have hfalse : (complete (.target ⟨["a"]⟩) .notIn (.array [.nil, floatSeven])).evaluate
      sevenMember = .ok false := by
    decide +kernel
  refine ⟨hroot, equalsOne, differs, hequals, hdiffers, ?_, ?_, ?_⟩
  · exact Except.ok.inj (hisIn.symm.trans htrue)
  · exact Except.ok.inj (hnotIn.symm.trans hfalse)
  · rcases hlists Json sevenMember with ⟨-, -, horder⟩
    have hmembers : ∀ literal, literal ∈ [floatSeven, .nil, floatSeven] ↔
        literal ∈ [.nil, floatSeven] := by
      intro literal
      simp only [List.mem_cons, List.not_mem_nil, or_false]
      tauto
    rw [(horder _ _ hmembers).1, htrue]

end Clause
end RecordFilter
