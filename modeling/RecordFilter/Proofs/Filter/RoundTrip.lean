import RecordFilter.Proofs.Filter.Building
import RecordFilter.Proofs.Query.RootFree

/-!
# Filters read back

The canonical text of a filter is parsed to an equal filter, or is refused because its groups nest
too deep.
-/

namespace RecordFilter
namespace Filter

open Query (Restorable filter_derives parse_of_spells parse_error_of_spells printable_of_parse
  readsBack_iff readsBack_of_floats spells_unsigned)

theorem printable_of_built {filter : Filter} (h : Built OfText filter) :
    ∀ clause ∈ filter.clauses, clause.Printable := by
  refine h.forall_clauses ?_ fun clause node => printable_of_accept
  intro parsed hparsed
  rcases hparsed with ⟨text, hparse⟩
  exact printable_of_parse hparse

/-- Whether integers read back is no question, so only floats have to be asked. -/
theorem restorable_of_floats {filter : Filter}
    (hprintable : ∀ clause ∈ filter.clauses, clause.Printable)
    (hfloats : ∀ x, Number.float x ∈ filter.numbers → (Number.float x).ReadsBack) :
    Restorable filter.clauses := by
  intro clause hclause
  refine ⟨hprintable clause hclause, ?_⟩
  intro n hn
  exact readsBack_of_floats hfloats n (List.mem_flatMap_of_mem hclause hn)

/--
A filter of texts and builder calls, with floats that read back, is parsed again from its canonical
text if its groups nest at most 128 deep, and is refused for its depth otherwise.
-/
theorem parse_query {filter : Filter} (hbuilt : Built OfText filter)
    (hfloats : ∀ x, Number.float x ∈ filter.numbers → (Number.float x).ReadsBack) :
    (filter.depth ≤ 128 →
      ∃ parsed, Filter.parse (filter.query .plain) = .ok parsed ∧ (parsed == filter) = true) ∧
    (128 < filter.depth →
      ∃ position, Filter.parse (filter.query .plain) = .error ⟨.nestingTooDeep 128, position⟩) := by
  have hrestorable := restorable_of_floats (printable_of_built hbuilt) hfloats
  rcases filter_derives filter hrestorable with ⟨list, parsed, hspells, hderives, hsame, hdepth⟩
  have htext : (filter.query .plain).toList = filter.text .plain := String.toList_ofList
  rw [← htext] at hspells
  constructor
  · intro hwithin
    rw [← hdepth] at hwithin
    exact ⟨parsed, parse_of_spells hspells hderives hwithin, hsame⟩
  · intro hdeep
    rw [← hdepth] at hdeep
    exact parse_error_of_spells hspells hderives hdeep

/-!
# A filter with a float
-/

def oneHalf : Double :=
  ⟨false, ⟨Binary.leastNormal, -53⟩, by decide⟩

theorem readsBack_oneHalf : (Number.float oneHalf).ReadsBack := by
  have htext : (Number.float oneHalf).text = ['0', '.', '5'] := by decide +kernel
  have hread : Number.read ['0', '.', '5'] = .ok (.float oneHalf, []) :=
    Number.read_of_numeral rfl (by decide +kernel)
  apply readsBack_iff.mpr
  rw [htext]
  exact ⟨.float oneHalf, spells_unsigned (by decide) rfl hread, Number.same_refl _⟩

def fromOneHalf : Clause :=
  .complete (.target ⟨["a b"]⟩) .between
    (.range (Range.ofBounds (.number (.float oneHalf)) .unbounded))

theorem built_fromOneHalf : fromOneHalf.Built := by
  have htarget : Clause.ofTarget "/a b" = .ok (.started (.target ⟨["a b"]⟩)) := by rfl
  have hselect : (Clause.started (.target ⟨["a b"]⟩)).select .between =
      .ok (.selected (.target ⟨["a b"]⟩) .between) := rfl
  exact .bindRange (.select (.ofTarget htarget) hselect) rfl

theorem parse_query_fromOneHalf :
    (∃ parsed, Filter.parse ((ofGroup (single (.clause fromOneHalf))).query .plain) = .ok parsed ∧
      (parsed == ofGroup (single (.clause fromOneHalf))) = true) ∧
    ∃ filter, Built OfText filter ∧ filter.depth = 129 ∧
      ∃ position, Filter.parse (filter.query .plain) = .error ⟨.nestingTooDeep 128, position⟩ := by
  have hbuilt : Built OfText (ofGroup (single (.clause fromOneHalf))) :=
    .ofGroup (.ofClause built_fromOneHalf rfl)
  have hfloats : ∀ deeper : Filter, deeper.clauses = [fromOneHalf] →
      ∀ x, Number.float x ∈ deeper.numbers → (Number.float x).ReadsBack := by
    intro deeper hclauses x hx
    have hnumbers : deeper.numbers = [.float oneHalf] := by
      unfold numbers
      rw [hclauses]
      rfl
    rw [hnumbers] at hx
    rw [List.mem_singleton.mp hx]
    exact readsBack_oneHalf
  rcases hbuilt.exists_deeper 128 with ⟨deeper, hdeeper, hdepth, hclauses⟩
  have hdeep : deeper.depth = 129 := hdepth
  refine ⟨(parse_query hbuilt (hfloats _ rfl)).1 (by decide), deeper, hdeeper, hdeep, ?_⟩
  exact (parse_query hdeeper (hfloats deeper hclauses)).2 (by omega)

end Filter
end RecordFilter
