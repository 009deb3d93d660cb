import RecordFilter.Filter.Parser
import RecordFilter.Proofs.Clause.Stages
import RecordFilter.Proofs.Query.Canonical

/-!
# Filters that can be built

A filter comes from texts and from the calls of the builder, in any order.  What all of them keep
is stated of its clauses: each is complete, its object has the shape that the operator takes, and
the root pointer stands on neither side.
-/

namespace RecordFilter

/-!
# Calls of the builder
-/

namespace Clause

/-- The clauses that calls of the builder lead to. -/
inductive Built : Clause → Prop where
  | ofTarget {pointer : String} {clause : Clause} :
      Clause.ofTarget pointer = .ok clause → Built clause
  | ofLiteral (value : Literal) : Built (Clause.ofLiteral value)
  | ofOperand (subject : Operand) : Built (Clause.ofOperand subject)
  | select {clause clause' : Clause} {operator : Operator} :
      Built clause → clause.select operator = .ok clause' → Built clause'
  | bind {clause clause' : Clause} {object : Object} :
      Built clause → clause.bind object = .ok clause' → Built clause'
  | bindLiteral {clause clause' : Clause} {value : Literal} :
      Built clause → clause.bindLiteral value = .ok clause' → Built clause'
  | bindTarget {clause clause' : Clause} {pointer : String} :
      Built clause → clause.bindTarget pointer = .ok clause' → Built clause'
  | bindArray {clause clause' : Clause} {items : List Literal} :
      Built clause → clause.bindArray items = .ok clause' → Built clause'
  | bindRange {clause clause' : Clause} {lower upper : Bound} :
      Built clause → clause.bindRange lower upper = .ok clause' → Built clause'
  | bindPattern {clause clause' : Clause} {raw : String} :
      Built clause → clause.bindPattern raw = .ok clause' → Built clause'

end Clause

namespace Filter

/-- The filters that calls of the builder make out of those of a source. -/
inductive Built (Source : Filter → Prop) : Filter → Prop where
  | source {filter : Filter} : Source filter → Built Source filter
  | ofClause {clause : Clause} {filter : Filter} :
      clause.Built → Filter.ofClause clause = .ok filter → Built Source filter
  | ofGroup {group : Filter} : Built Source group → Built Source (Filter.ofGroup group)
  | joinClause {filter filter' : Filter} {conjunction : Conjunction} {clause : Clause} :
      Built Source filter → clause.Built → filter.joinClause conjunction clause = .ok filter' →
      Built Source filter'
  | joinGroup {filter group : Filter} (conjunction : Conjunction) :
      Built Source filter → Built Source group → Built Source (filter.joinGroup conjunction group)

/-- The filters that texts are parsed to. -/
def OfText (filter : Filter) : Prop :=
  ∃ text, Filter.parse text = .ok filter

end Filter

/-!
# Clauses of the builder
-/

namespace Clause

/-- The object of a complete clause has the shape that its operator takes. -/
def WellTyped (clause : Clause) : Prop :=
  ∀ subject operator object, clause = .complete subject operator object →
    object.family = operator.family

theorem wellTyped_of_bind {clause clause' : Clause} {object : Object}
    (h : clause.bind object = .ok clause') : clause'.WellTyped := by
  rcases bind_eq_ok_iff.mp h with ⟨subject, operator, -, hfamily, rfl⟩
  intro subject' operator' object' heq
  cases heq
  exact hfamily

/-- Every way to bind an object ends in the same call. -/
theorem exists_bind_of_bindTarget {clause clause' : Clause} {pointer : String}
    (h : clause.bindTarget pointer = .ok clause') :
    ∃ object, clause.bind object = .ok clause' := by
  cases clause with
  | started subject =>
      cases h
  | complete subject operator object =>
      cases h
  | selected subject operator =>
      unfold bindTarget at h
      cases htarget : targetOf pointer with
      | error e =>
          rw [htarget] at h
          cases h
      | ok target =>
          rw [htarget] at h
          exact ⟨_, h⟩

theorem wellTyped_started (subject : Operand) : (started subject).WellTyped := by
  intro subject' operator object heq
  cases heq

theorem wellTyped_of_select {clause clause' : Clause} {operator : Operator}
    (h : clause.select operator = .ok clause') : clause'.WellTyped := by
  rcases select_eq_ok_iff.mp h with ⟨subject, -, rfl⟩
  intro subject' operator' object heq
  cases heq

theorem Built.wellTyped {clause : Clause} (h : clause.Built) : clause.WellTyped := by
  cases h with
  | @ofTarget pointer _ hok =>
      unfold Clause.ofTarget at hok
      cases htarget : targetOf pointer with
      | error e =>
          rw [htarget] at hok
          cases hok
      | ok target =>
          rw [htarget] at hok
          cases hok
          exact wellTyped_started _
  | ofLiteral value =>
      exact wellTyped_started _
  | ofOperand subject =>
      exact wellTyped_started _
  | select _ hok =>
      exact wellTyped_of_select hok
  | bind _ hok =>
      exact wellTyped_of_bind hok
  | bindLiteral _ hok =>
      exact wellTyped_of_bind hok
  | bindTarget _ hok =>
      rcases exists_bind_of_bindTarget hok with ⟨object, hbind⟩
      exact wellTyped_of_bind hbind
  | bindArray _ hok =>
      exact wellTyped_of_bind hok
  | bindRange _ hok =>
      exact wellTyped_of_bind hok
  | bindPattern _ hok =>
      exact wellTyped_of_bind hok

end Clause

namespace Filter

theorem accept_ok {clause : Clause} {node : Node} (h : accept clause = .ok node) :
    node = .clause clause ∧ clause.isValid = true ∧ clause.hasRoot = false := by
  unfold accept at h
  split at h
  · next hvalid =>
      split at h
      · cases h
      · next hroot =>
          cases h
          exact ⟨rfl, hvalid, Bool.eq_false_iff.mpr hroot⟩
  · cases h

theorem ofClause_ok {clause : Clause} {filter : Filter} (h : Filter.ofClause clause = .ok filter) :
    ∃ node, accept clause = .ok node ∧ filter = single node := by
  unfold Filter.ofClause at h
  cases hnode : accept clause with
  | error e =>
      rw [hnode] at h
      cases h
  | ok node =>
      rw [hnode] at h
      cases h
      exact ⟨node, rfl, rfl⟩

theorem joinClause_ok {filter filter' : Filter} {conjunction : Conjunction} {clause : Clause}
    (h : filter.joinClause conjunction clause = .ok filter') :
    ∃ node, accept clause = .ok node ∧ filter' = join filter conjunction node := by
  unfold Filter.joinClause at h
  cases hnode : accept clause with
  | error e =>
      rw [hnode] at h
      cases h
  | ok node =>
      rw [hnode] at h
      cases h
      exact ⟨node, rfl, rfl⟩

theorem printable_of_accept {clause : Clause} {node : Node} (hbuilt : clause.Built)
    (h : accept clause = .ok node) : node = .clause clause ∧ clause.Printable := by
  rcases accept_ok h with ⟨hnode, hvalid, hroot⟩
  refine ⟨hnode, ?_⟩
  cases clause with
  | started subject =>
      cases hvalid
  | selected subject operator =>
      cases hvalid
  | complete subject operator object =>
      have hfamily := hbuilt.wellTyped subject operator object rfl
      rw [Clause.hasRoot_complete, Bool.or_eq_false_iff] at hroot
      exact .complete hfamily hroot.1 hroot.2

/-!
# Clauses of built filters
-/

/-- What holds of the clauses of the source, and of those that are added, holds of all. -/
theorem Built.forall_clauses {Source : Filter → Prop} {P : Clause → Prop}
    (hsource : ∀ filter, Source filter → ∀ clause ∈ filter.clauses, P clause)
    (haccept : ∀ clause node, clause.Built → accept clause = .ok node →
      node = .clause clause ∧ P clause)
    {filter : Filter} (h : Built Source filter) : ∀ clause ∈ filter.clauses, P clause := by
  induction h with
  | source hfilter =>
      exact hsource _ hfilter
  | @ofClause added _ hbuilt hok =>
      rcases ofClause_ok hok with ⟨node, hnode, rfl⟩
      rcases haccept added node hbuilt hnode with ⟨rfl, hadded⟩
      intro clause hclause
      rw [List.mem_singleton.mp hclause]
      exact hadded
  | ofGroup _ ih =>
      exact ih
  | @joinClause left _ conjunction added _ hbuilt hok ih =>
      rcases joinClause_ok hok with ⟨node, hnode, rfl⟩
      rcases haccept added node hbuilt hnode with ⟨rfl, hadded⟩
      intro clause hclause
      rcases List.mem_append.mp hclause with hleft | hright
      · exact ih clause hleft
      · rw [List.mem_singleton.mp hright]
        exact hadded
  | joinGroup conjunction _ _ ihLeft ihGroup =>
      intro clause hclause
      rcases List.mem_append.mp hclause with hleft | hgroup
      · exact ihLeft clause hleft
      · exact ihGroup clause hgroup

theorem Built.exists_deeper {Source : Filter → Prop} {filter : Filter} (h : Built Source filter)
    (levels : Nat) : ∃ deeper, Built Source deeper ∧ deeper.depth = filter.depth + levels ∧
      deeper.clauses = filter.clauses := by
  induction levels with
  | zero =>
      exact ⟨filter, h, rfl, rfl⟩
  | succ levels ih =>
      rcases ih with ⟨deeper, hbuilt, hdepth, hclauses⟩
      exact ⟨Filter.ofGroup deeper, .ofGroup hbuilt, congrArg Nat.succ hdepth, hclauses⟩

end Filter
end RecordFilter
