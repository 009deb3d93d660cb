import RecordFilter.Pattern.Engine
import RecordFilter.Proofs.Clause.Evaluation
import RecordFilter.Proofs.Filter.Building
import RecordFilter.Proofs.Query.RootFree

/-!
# Well-formed filters

Whatever filter is parsed or built, every level of it starts with the one element that has no
conjunction, and every clause in it is complete, with an object of the family of its operator.
So its clauses can be evaluated on every record, and the parser has nothing to object to a clause
once it has been read.
-/

namespace RecordFilter

/-!
# Well-formed clauses
-/

namespace Clause

/-- All parts are set, and the object is of the family of the operator. -/
def WellFormed (clause : Clause) : Prop :=
  clause.stage = .valid ∧ clause.object?.map Object.family = clause.operator?.map Operator.family

theorem wellFormed_complete {subject : Operand} {operator : Operator} {object : Object}
    (h : object.family = operator.family) : (complete subject operator object).WellFormed :=
  ⟨rfl, congrArg some h⟩

theorem WellFormed.exists_complete {clause : Clause} (h : clause.WellFormed) :
    ∃ subject operator object, clause = complete subject operator object ∧
      object.family = operator.family := by
  rcases h with ⟨hstage, hfamily⟩
  cases clause with
  | started subject =>
      cases hstage
  | selected subject operator =>
      cases hstage
  | complete subject operator object =>
      exact ⟨subject, operator, object, rfl, Option.some.inj hfamily⟩

/-- Calls of the builder lead to every well-formed clause. -/
theorem WellFormed.built {clause : Clause} (h : clause.WellFormed) : clause.Built := by
  rcases h.exists_complete with ⟨subject, operator, object, rfl, hfamily⟩
  exact .bind (.select (.ofOperand subject) rfl) (if_pos hfamily)

end Clause

/-!
# Evaluation
-/

section Records

variable [Pattern.Engine] {ρ : Type} [Record ρ]

theorem Clause.WellFormed.evaluate_ok {clause : Clause} (h : clause.WellFormed) (record : ρ) :
    ∃ holds, clause.evaluate record = .ok holds ∧ clause.holds record = holds := by
  rcases h.exists_complete with ⟨subject, operator, object, rfl, hfamily⟩
  have hresolved : (object.resolve record).family = operator.family := by
    rw [Object.family_resolve, hfamily]
  rcases Operator.apply_ok hresolved (subject.resolve? record) with ⟨holds, hholds⟩
  have hevaluate : (complete subject operator object).evaluate record = .ok holds := hholds
  refine ⟨holds, hevaluate, ?_⟩
  rw [Clause.holds, hevaluate]

end Records

/-!
# Well-formed filters

The rules are stated of the elements of a level, whatever stands in front of them, so that
nothing is taken from the way filters are made.
-/

/-- One element without a conjunction, and behind it elements that each have one. -/
def Linked (elements : List (Option Conjunction × Node)) : Prop :=
  ∃ first rest, elements = (none, first) :: rest ∧ ∀ element ∈ rest, element.1 ≠ none

mutual

inductive Node.WellFormed : Node → Prop where
  | clause {clause : Clause} : clause.WellFormed → Node.WellFormed (.clause clause)
  | group {filter : Filter} : Filter.WellFormed filter → Node.WellFormed (.group filter)

inductive Filter.WellFormed : Filter → Prop where
  | level {filter : Filter} :
      Linked filter.elements → (∀ element ∈ filter.elements, Node.WellFormed element.2) →
      Filter.WellFormed filter

end

namespace Filter

theorem linked_elements (filter : Filter) : Linked filter.elements := by
  fun_induction elements filter with
  | case1 node =>
      exact ⟨node, [], rfl, List.forall_mem_nil _⟩
  | case2 left conjunction node ih =>
      rcases ih with ⟨first, rest, helements, hrest⟩
      refine ⟨first, rest ++ [(some conjunction, node)], by rw [helements]; rfl, ?_⟩
      refine List.forall_mem_append.mpr ⟨hrest, List.forall_mem_singleton.mpr ?_⟩
      exact Option.some_ne_none conjunction

end Filter

mutual

theorem Node.wellFormed_of_clauses : ∀ (node : Node),
    (∀ clause ∈ node.clauses, clause.WellFormed) → node.WellFormed
  | .clause clause, h => .clause (h clause List.mem_cons_self)
  | .group filter, h => .group (Filter.wellFormed_of_clauses filter h)

/-- Only the clauses can be ill-formed. -/
theorem Filter.wellFormed_of_clauses : ∀ (filter : Filter),
    (∀ clause ∈ filter.clauses, clause.WellFormed) → filter.WellFormed
  | .single node, h => by
      refine .level (Filter.linked_elements _) ?_
      intro element hmem
      rw [List.mem_singleton.mp hmem]
      exact Node.wellFormed_of_clauses node h
  | .join left conjunction node, h => by
      have hleft := Filter.wellFormed_of_clauses left fun clause hclause =>
        h clause (List.mem_append_left _ hclause)
      have hnode := Node.wellFormed_of_clauses node fun clause hclause =>
        h clause (List.mem_append_right _ hclause)
      refine .level (Filter.linked_elements _) ?_
      intro element hmem
      rcases List.mem_append.mp hmem with hmem | hmem
      · cases hleft with
        | level _ helements =>
            exact helements element hmem
      · rw [List.mem_singleton.mp hmem]
        exact hnode

end

/-!
# Filters of tokens
-/

namespace Filter

/-- The filters that are parsed from tokens, whatever tokens they are. -/
def OfTokens (filter : Filter) : Prop :=
  ∃ stream : Query.TokenStream, stream.parse.1 = .ok filter

/-- The filters that are parsed, from texts or from tokens. -/
def Parsed (filter : Filter) : Prop :=
  OfText filter ∨ OfTokens filter

theorem Parsed.ofTokens {filter : Filter} (h : Parsed filter) : OfTokens filter := by
  rcases h with ⟨text, hparse⟩ | h
  · unfold Filter.parse at hparse
    cases hstream : Query.TokenStream.ofText text with
    | error e =>
        rw [hstream] at hparse
        cases hparse
    | ok stream =>
        rw [hstream] at hparse
        exact ⟨stream, hparse⟩
  · exact h

theorem OfTokens.derives {filter : Filter} (h : OfTokens filter) :
    ∃ list, Query.DerivesFilter list filter ∧ filter.depth ≤ Query.Parser.maxDepth := by
  rcases h with ⟨⟨tokens, stop⟩, hparse⟩
  exact ⟨Query.kinds tokens, Query.parse_eq_ok_iff.mp hparse⟩

theorem ofTokens_of_derives {filter : Filter} {list : List Query.TokenKind}
    (h : Query.DerivesFilter list filter) (hdepth : filter.depth ≤ Query.Parser.maxDepth) :
    OfTokens filter := by
  refine ⟨⟨Query.tokensOf list, 0⟩, Query.parse_eq_ok_iff.mpr ⟨?_, hdepth⟩⟩
  rw [Query.kinds_tokensOf]
  exact h

theorem Parsed.clauses {filter : Filter} (h : Parsed filter) :
    ∀ clause ∈ filter.clauses, clause.WellFormed := by
  intro clause hclause
  rcases h.ofTokens.derives with ⟨list, hderives, _⟩
  rcases hderives.clauses clause hclause with ⟨part, hpart⟩
  cases hpart with
  | clause _ hobject =>
      exact Clause.wellFormed_complete (Query.family_of_derivesObject hobject)

/-!
# Filters that are parsed and built
-/

theorem wellFormed_of_accept {clause : Clause} {node : Node} (hbuilt : clause.Built)
    (h : accept clause = .ok node) : node = .clause clause ∧ clause.WellFormed := by
  rcases accept_ok h with ⟨hnode, hvalid, _⟩
  refine ⟨hnode, ?_⟩
  cases clause with
  | started subject =>
      cases hvalid
  | selected subject operator =>
      cases hvalid
  | complete subject operator object =>
      exact Clause.wellFormed_complete (hbuilt.wellTyped subject operator object rfl)

theorem Built.clauses_wellFormed {filter : Filter} (h : Built Parsed filter) :
    ∀ clause ∈ filter.clauses, clause.WellFormed :=
  h.forall_clauses (fun _ => Parsed.clauses) fun _ _ => wellFormed_of_accept

/-- What is taken out of a filter has a way to be built as well. -/
theorem Built.clause_built {filter : Filter} (h : Built Parsed filter) :
    ∀ clause ∈ filter.clauses, clause.Built :=
  fun clause hclause => (h.clauses_wellFormed clause hclause).built

theorem Built.group_built {filter : Filter} (h : Built Parsed filter) :
    ∀ group ∈ filter.groups, Built Parsed group := by
  induction h with
  | source hparsed =>
      intro group hgroup
      rcases hparsed.ofTokens.derives with ⟨list, hderives, hdepth⟩
      rcases hderives.groups group hgroup with ⟨part, hpart⟩
      have hless := Filter.depth_of_mem_groups hgroup
      exact .source (Or.inr (ofTokens_of_derives hpart (by omega)))
  | ofClause _ hok =>
      intro group hgroup
      rcases ofClause_ok hok with ⟨node, hnode, rfl⟩
      rcases accept_ok hnode with ⟨rfl, _, _⟩
      cases hgroup
  | ofGroup hinner ih =>
      intro group hgroup
      rcases List.mem_cons.mp hgroup with rfl | hgroup
      · exact hinner
      · exact ih group hgroup
  | joinClause _ _ hok ih =>
      intro group hgroup
      rcases joinClause_ok hok with ⟨node, hnode, rfl⟩
      rcases accept_ok hnode with ⟨rfl, _, _⟩
      rcases List.mem_append.mp hgroup with hgroup | hgroup
      · exact ih group hgroup
      · cases hgroup
  | joinGroup conjunction _ hinner ihLeft ihGroup =>
      intro group hgroup
      rcases List.mem_append.mp hgroup with hgroup | hgroup
      · exact ihLeft group hgroup
      · rcases List.mem_cons.mp hgroup with rfl | hgroup
        · exact hinner
        · exact ihGroup group hgroup

theorem parse_ne_invalidClause (stream : Query.TokenStream) (cause : FilterError)
    (position : Nat) : stream.parse.1 ≠ .error ⟨.invalidClause cause, position⟩ := by
  intro h
  rcases stream with ⟨tokens, stop⟩
  rcases Query.parse_error_cases h with ⟨htoken, _⟩ | ⟨hend, _⟩
  · exact htoken
  · exact hend

/--
Every filter that is parsed or built is well-formed at every depth, and each of its clauses can be
evaluated on every record; clauses and groups that are taken out of it are built ones again.  The
parser never reports a clause that the builder refused.
-/
theorem built_wellFormed [Pattern.Engine] :
    (∀ filter, Built Parsed filter → filter.WellFormed ∧
      (∀ clause ∈ filter.clauses, ∀ (ρ : Type) [Record ρ] (record : ρ),
        ∃ holds, clause.evaluate record = .ok holds ∧ clause.holds record = holds) ∧
      (∀ clause ∈ filter.clauses, clause.Built) ∧
      ∀ group ∈ filter.groups, Built Parsed group) ∧
    ∀ (stream : Query.TokenStream) cause position,
      stream.parse.1 ≠ .error ⟨.invalidClause cause, position⟩ := by
  constructor
  · intro filter h
    refine ⟨filter.wellFormed_of_clauses h.clauses_wellFormed, ?_, h.clause_built, h.group_built⟩
    intro clause hclause ρ _ record
    exact (h.clauses_wellFormed clause hclause).evaluate_ok record
  · exact parse_ne_invalidClause

/-!
# A filter that is parsed and built
-/

def twoOrMore : Filter :=
  ofGroup (single (.clause (.complete (.target ⟨["a"]⟩) .gte
    (.operand (.literal (.number (.integer 2 (by decide))))))))

def notNamed : Clause :=
  .complete (.target ⟨["b"]⟩) .nlike (.pattern ⟨"x*"⟩)

theorem built_wellFormed_twoOrMore :
    Built Parsed (join twoOrMore .and (.clause notNamed)) ∧
    (join twoOrMore .and (.clause notNamed)).WellFormed ∧
    ∃ holds, notNamed.evaluate (Json.object [("a", .bool true)]) = .ok holds ∧
      notNamed.holds (Json.object [("a", .bool true)]) = holds := by
  have hderives : Query.DerivesFilter _ twoOrMore :=
    .single (.group (.single (.clause (.clause (.target _) (.operand (.literal (.number _)))))))
  have hparsed : Built Parsed twoOrMore :=
    .source (Or.inr (ofTokens_of_derives hderives (by decide)))
  have hclause : notNamed.Built := (Clause.wellFormed_complete rfl).built
  have hbuilt : Built Parsed (join twoOrMore .and (.clause notNamed)) :=
    .joinClause hparsed hclause rfl
  have hresult := built_wellFormed.1 _ hbuilt
  have hmem : notNamed ∈ (join twoOrMore .and (.clause notNamed)).clauses :=
    List.mem_append_right _ List.mem_cons_self
  exact ⟨hbuilt, hresult.1, hresult.2.1 notNamed hmem Json _⟩

end Filter
end RecordFilter
