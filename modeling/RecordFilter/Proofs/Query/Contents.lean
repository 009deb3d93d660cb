import RecordFilter.Proofs.Query.Grammar

/-!
# What a derived filter holds

Every clause and every group of a derived filter is derived in its turn, and the targets of the
filter are those among the tokens, in their order.
-/

namespace RecordFilter

/-!
# Targets and groups of a filter
-/

namespace Operand

def targets : Operand → List Target
  | target t => [t]
  | literal _ => []

theorem isRoot_eq_false_iff {operand : Operand} :
    operand.isRoot = false ↔ ∀ t ∈ operand.targets, t.isRoot = false := by
  cases operand with
  | target t =>
      rw [targets, List.forall_mem_singleton]
      rfl
  | literal value =>
      exact ⟨fun _ _ h => absurd h List.not_mem_nil, fun _ => rfl⟩

end Operand

namespace Object

def targets : Object → List Target
  | operand o => o.targets
  | _ => []

theorem isRoot_eq_false_iff {object : Object} :
    object.isRoot = false ↔ ∀ t ∈ object.targets, t.isRoot = false := by
  cases object with
  | operand o =>
      exact Operand.isRoot_eq_false_iff
  | array items | range r | pattern p =>
      exact ⟨fun _ _ h => absurd h List.not_mem_nil, fun _ => rfl⟩

end Object

namespace Clause

def targets (clause : Clause) : List Target :=
  clause.subject.targets ++ clause.object?.toList.flatMap Object.targets

@[simp] theorem targets_complete (subject : Operand) (operator : Operator) (object : Object) :
    (complete subject operator object).targets = subject.targets ++ object.targets := by
  simp [targets, Clause.subject, object?]

@[simp] theorem hasRoot_complete (subject : Operand) (operator : Operator) (object : Object) :
    (complete subject operator object).hasRoot = (subject.isRoot || object.isRoot) := by
  simp [hasRoot, Clause.subject, object?]

theorem hasRoot_eq_false_iff {clause : Clause} :
    clause.hasRoot = false ↔ ∀ t ∈ clause.targets, t.isRoot = false := by
  have hobject : (clause.object?.any Object.isRoot) = false ↔
      ∀ t ∈ clause.object?.toList.flatMap Object.targets, t.isRoot = false := by
    cases clause.object? with
    | none =>
        simp
    | some object =>
        simp [Object.isRoot_eq_false_iff]
  unfold hasRoot targets
  rw [Bool.or_eq_false_iff, Operand.isRoot_eq_false_iff, hobject, List.forall_mem_append]

end Clause

namespace Filter

/-- Every target in the filter, those in groups included. -/
def targets (filter : Filter) : List Target :=
  filter.clauses.flatMap Clause.targets

theorem forall_hasRoot_eq_false_iff {filter : Filter} :
    (∀ clause ∈ filter.clauses, clause.hasRoot = false) ↔
      ∀ t ∈ filter.targets, t.isRoot = false := by
  unfold targets
  rw [List.forall_mem_flatMap]
  simp only [Clause.hasRoot_eq_false_iff]

end Filter

mutual

def Node.groups : Node → List Filter
  | .clause _ => []
  | .group filter => filter :: filter.groups

/-- Every filter in parentheses inside a filter, at any depth. -/
def Filter.groups : Filter → List Filter
  | .single node => node.groups
  | .join left _ node => left.groups ++ node.groups

end

mutual

theorem Node.depth_of_mem_groups : ∀ {node : Node} {group : Filter},
    group ∈ node.groups → group.depth < node.depth
  | .clause _, _, h => by
      cases h
  | .group filter, group, h => by
      rw [Node.depth]
      rcases List.mem_cons.mp h with rfl | h
      · exact Nat.lt_succ_self _
      · exact Nat.lt_succ_of_lt (Filter.depth_of_mem_groups h)

theorem Filter.depth_of_mem_groups : ∀ {filter group : Filter},
    group ∈ filter.groups → group.depth < filter.depth
  | .single _, _, h => by
      rw [Filter.depth]
      exact Node.depth_of_mem_groups h
  | .join _ _ _, _, h => by
      rw [Filter.depth]
      rcases List.mem_append.mp h with h | h
      · exact Nat.lt_of_lt_of_le (Filter.depth_of_mem_groups h) (Nat.le_max_left _ _)
      · exact Nat.lt_of_lt_of_le (Node.depth_of_mem_groups h) (Nat.le_max_right _ _)

end

namespace Query

/-!
# Clauses and groups
-/

mutual

theorem DerivesNode.clauses : ∀ {list : List TokenKind} {node : Node}, DerivesNode list node →
    ∀ clause ∈ node.clauses, ∃ part, DerivesClause part clause
  | list, _, .clause hclause, clause, hmem => by
      rw [List.mem_singleton.mp hmem]
      exact ⟨list, hclause⟩
  | _, _, .group hfilter, clause, hmem => hfilter.clauses clause hmem

theorem DerivesFilter.clauses : ∀ {list : List TokenKind} {filter : Filter},
    DerivesFilter list filter → ∀ clause ∈ filter.clauses, ∃ part, DerivesClause part clause
  | _, _, .single hnode, clause, hmem => hnode.clauses clause hmem
  | _, _, .join hleft _ hnode, clause, hmem => by
      rcases List.mem_append.mp hmem with hmem | hmem
      · exact hleft.clauses clause hmem
      · exact hnode.clauses clause hmem

end

mutual

theorem DerivesNode.groups : ∀ {list : List TokenKind} {node : Node}, DerivesNode list node →
    ∀ group ∈ node.groups, ∃ part, DerivesFilter part group
  | _, _, .clause _, group, hmem => by
      cases hmem
  | _, _, .group hfilter, group, hmem => by
      rcases List.mem_cons.mp hmem with rfl | hmem
      · exact ⟨_, hfilter⟩
      · exact hfilter.groups group hmem

theorem DerivesFilter.groups : ∀ {list : List TokenKind} {filter : Filter},
    DerivesFilter list filter → ∀ group ∈ filter.groups, ∃ part, DerivesFilter part group
  | _, _, .single hnode, group, hmem => hnode.groups group hmem
  | _, _, .join hleft _ hnode, group, hmem => by
      rcases List.mem_append.mp hmem with hmem | hmem
      · exact hleft.groups group hmem
      · exact hnode.groups group hmem

end

/-!
# Targets

Literals, conjunctions and marks are no targets, so the targets of the tokens are found in the
operands one after the other.
-/

def TokenKind.target? : TokenKind → Option Target
  | .target t => some t
  | _ => none

def targetsOf (list : List TokenKind) : List Target :=
  list.filterMap TokenKind.target?

theorem targetsOf_append (front back : List TokenKind) :
    targetsOf (front ++ back) = targetsOf front ++ targetsOf back :=
  List.filterMap_append

theorem targetsOf_cons_of_none {kind : TokenKind} (h : kind.target? = none)
    (list : List TokenKind) : targetsOf (kind :: list) = targetsOf list :=
  List.filterMap_cons_none h

theorem mem_targetsOf {list : List TokenKind} {t : Target} :
    t ∈ targetsOf list ↔ .target t ∈ list := by
  unfold targetsOf
  rw [List.mem_filterMap]
  constructor
  · intro h
    rcases h with ⟨kind, hmem, hkind⟩
    cases kind <;> cases hkind
    exact hmem
  · intro h
    exact ⟨_, h, rfl⟩

theorem DerivesLiteral.target? {kind : TokenKind} {value : Literal}
    (h : DerivesLiteral kind value) : kind.target? = none := by
  cases h <;> rfl

theorem DerivesBound.target? {kind : TokenKind} {bound : Bound} (h : DerivesBound kind bound) :
    kind.target? = none := by
  cases h <;> rfl

theorem DerivesConjunction.target? {kind : TokenKind} {conjunction : Conjunction}
    (h : DerivesConjunction kind conjunction) : kind.target? = none := by
  cases h <;> rfl

theorem DerivesOperand.targetsOf {kind : TokenKind} {operand : Operand}
    (h : DerivesOperand kind operand) : targetsOf [kind] = operand.targets := by
  cases h with
  | target t =>
      rfl
  | literal hliteral =>
      exact targetsOf_cons_of_none hliteral.target? []

theorem DerivesItems.targetsOf {list : List TokenKind} {values : List Literal}
    (h : DerivesItems list values) : targetsOf list = [] := by
  induction h with
  | last hvalue =>
      exact targetsOf_cons_of_none hvalue.target? []
  | more hvalue _ ih =>
      rw [targetsOf_cons_of_none hvalue.target?, targetsOf_cons_of_none rfl, ih]

theorem DerivesObject.targetsOf {family : OperatorFamily} {list : List TokenKind} {object : Object}
    (h : DerivesObject family list object) : targetsOf list = object.targets := by
  cases h with
  | operand hoperand =>
      exact hoperand.targetsOf
  | emptyArray =>
      rfl
  | array hitems =>
      rw [List.cons_append, targetsOf_cons_of_none rfl, targetsOf_append, hitems.targetsOf]
      rfl
  | range hlower hupper =>
      have hcomma : TokenKind.comma.target? = none := rfl
      rw [targetsOf_cons_of_none hlower.target?, targetsOf_cons_of_none hcomma,
        targetsOf_cons_of_none hupper.target?]
      rfl
  | pattern raw =>
      rfl

theorem DerivesClause.targetsOf {list : List TokenKind} {clause : Clause}
    (h : DerivesClause list clause) : targetsOf list = clause.targets := by
  cases h with
  | @clause kind subject operator rest object hsubject hobject =>
      have hoperator : (TokenKind.operator operator).target? = none := rfl
      have hsplit : kind :: .operator operator :: rest = [kind] ++ .operator operator :: rest := rfl
      rw [hsplit, targetsOf_append, targetsOf_cons_of_none hoperator, hsubject.targetsOf,
        hobject.targetsOf, Clause.targets_complete]

mutual

theorem DerivesNode.targetsOf : ∀ {list : List TokenKind} {node : Node}, DerivesNode list node →
    targetsOf list = node.clauses.flatMap Clause.targets
  | _, _, .clause hclause => by
      rw [hclause.targetsOf]
      exact (List.flatMap_singleton _ _).symm
  | _, _, .group hfilter => by
      rw [List.cons_append, targetsOf_cons_of_none rfl, targetsOf_append, hfilter.targetsOf]
      exact List.append_nil _

theorem DerivesFilter.targetsOf : ∀ {list : List TokenKind} {filter : Filter},
    DerivesFilter list filter → targetsOf list = filter.targets
  | _, _, .single hnode => hnode.targetsOf
  | _, _, .join hleft hconjunction hnode => by
      rw [targetsOf_append, targetsOf_cons_of_none hconjunction.target?, hleft.targetsOf,
        hnode.targetsOf]
      exact List.flatMap_append.symm

end

end Query
end RecordFilter
