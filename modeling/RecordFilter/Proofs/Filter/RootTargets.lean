import RecordFilter.Proofs.Filter.WellFormed

/-!
# The root in filters

A text cannot name the root and the builder refuses it, but tokens that are handed to the parser
can hold it.  So a filter is without the root exactly if it can be made without such tokens.
-/

namespace RecordFilter
namespace Filter

/-- The filters that are parsed from texts, or from tokens none of which is the root. -/
def ParsedRootFree (filter : Filter) : Prop :=
  OfText filter ∨
    ∃ stream : Query.TokenStream, Query.RootFree (Query.kinds stream.rest) ∧
      stream.parse.1 = .ok filter

/-!
# Filters of texts and tokens
-/

theorem hasRoot_eq_false_of_text {filter : Filter} (h : OfText filter) :
    ∀ clause ∈ filter.clauses, clause.hasRoot = false := by
  rcases h with ⟨text, hparse⟩
  rcases Query.spells_of_parse hparse with ⟨list, hspells, hderives, _⟩
  exact hderives.rootFree_iff.mpr hspells.rootFree

/-- The parser brings every target of the tokens into the filter, the root like any other. -/
theorem hasRoot_eq_false_iff_rootFree {stream : Query.TokenStream} {filter : Filter}
    (h : stream.parse.1 = .ok filter) :
    (∀ clause ∈ filter.clauses, clause.hasRoot = false) ↔
      Query.RootFree (Query.kinds stream.rest) := by
  rcases stream with ⟨tokens, stop⟩
  exact (Query.parse_eq_ok_iff.mp h).1.rootFree_iff

theorem ParsedRootFree.hasRoot_eq_false {filter : Filter} (h : ParsedRootFree filter) :
    ∀ clause ∈ filter.clauses, clause.hasRoot = false := by
  rcases h with htext | ⟨stream, hfree, hparse⟩
  · exact hasRoot_eq_false_of_text htext
  · exact (hasRoot_eq_false_iff_rootFree hparse).mpr hfree

theorem Parsed.rootFree {filter : Filter} (h : Parsed filter)
    (hclauses : ∀ clause ∈ filter.clauses, clause.hasRoot = false) : ParsedRootFree filter := by
  rcases h with htext | ⟨stream, hparse⟩
  · exact Or.inl htext
  · exact Or.inr ⟨stream, (hasRoot_eq_false_iff_rootFree hparse).mp hclauses, hparse⟩

/-!
# Filters that are built
-/

/--
A filter that is parsed and built has no root in it, at any depth, exactly if the tokens that it
was parsed from had none.
-/
theorem hasRoot_eq_false_iff_built {filter : Filter} (h : Built Parsed filter) :
    (∀ clause ∈ filter.clauses, clause.hasRoot = false) ↔ Built ParsedRootFree filter := by
  constructor
  · intro hclauses
    induction h with
    | source hparsed =>
        exact .source (hparsed.rootFree hclauses)
    | ofClause hbuilt hok =>
        exact .ofClause hbuilt hok
    | ofGroup _ ih =>
        exact .ofGroup (ih hclauses)
    | joinClause _ hbuilt hok ih =>
        rcases joinClause_ok hok with ⟨node, _, rfl⟩
        have hleft := ih fun clause hclause => hclauses clause (List.mem_append_left _ hclause)
        exact .joinClause hleft hbuilt hok
    | joinGroup conjunction _ _ ihLeft ihGroup =>
        have hleft := ihLeft fun clause hclause =>
          hclauses clause (List.mem_append_left _ hclause)
        have hgroup := ihGroup fun clause hclause =>
          hclauses clause (List.mem_append_right _ hclause)
        exact .joinGroup conjunction hleft hgroup
  · intro hbuilt
    refine hbuilt.forall_clauses (fun _ => ParsedRootFree.hasRoot_eq_false) ?_
    intro clause node _ hok
    rcases accept_ok hok with ⟨hnode, _, hroot⟩
    exact ⟨hnode, hroot⟩

/-!
# Tokens with the root
-/

def rootTokens : Query.TokenStream :=
  ⟨[⟨.target ⟨[]⟩, 0⟩, ⟨.operator .eq, 1⟩, ⟨.number (.integer 1 (by decide)), 4⟩], 5⟩

def rootIsOne : Clause :=
  .complete (.target ⟨[]⟩) .eq (.operand (.literal (.number (.integer 1 (by decide)))))

theorem parse_rootTokens : rootTokens.parse.1 = .ok (single (.clause rootIsOne)) := by
  apply Query.parse_eq_ok_iff.mpr
  exact ⟨.single (.clause (.clause (.target _) (.operand (.literal (.number _))))), by decide⟩

theorem hasRoot_eq_false_iff_built_rootTokens :
    Built Parsed (single (.clause rootIsOne)) ∧
    ¬Built ParsedRootFree (single (.clause rootIsOne)) := by
  have hbuilt : Built Parsed (single (.clause rootIsOne)) :=
    .source (Or.inr ⟨rootTokens, parse_rootTokens⟩)
  refine ⟨hbuilt, ?_⟩
  intro hfree
  have hroot := (hasRoot_eq_false_iff_built hbuilt).mpr hfree rootIsOne List.mem_cons_self
  cases hroot

/-- The filter of these tokens has the root in it, and its canonical text is no query. -/
theorem rootTokens_hasRoot :
    rootTokens.parse.1 = .ok (single (.clause rootIsOne)) ∧ rootIsOne.hasRoot = true ∧
    ∀ parsed, Filter.parse ((single (.clause rootIsOne)).query .plain) ≠ .ok parsed := by
  refine ⟨parse_rootTokens, rfl, ?_⟩
  intro parsed hparse
  have herror : (Filter.parse ((single (.clause rootIsOne)).query .plain)).isOk = false := by
    decide +kernel
  rw [hparse] at herror
  cases herror

end Filter
end RecordFilter
