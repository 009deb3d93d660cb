import RecordFilter.Command.Basic
import RecordFilter.Proofs.Filter.RoundTrip
import RecordFilter.Proofs.Query.Legibility

/-!
# Formatting twice

The canonical text of a query is parsed to the filter of the query with every number read again.
So formatting keeps a canonical text, and what it means, exactly if the numbers come back as they
were, and there are queries whose numbers do not.
-/

namespace RecordFilter
namespace Filter

open Query (Tracks parse_written printable_of_parse readsBack_iff_reread readsBack_of_floats
  spells_of_parse spells_target writable_of_parse writable_plain_iff)

/-!
# Parsing canonical texts
-/

/-- Canonical text writes every target but the root so that it is read again. -/
theorem tracks_plain : Tracks (Target.text .plain) fun _ _ => True where
  behind _ := trivial
  spelled hroot _ _ := spells_target hroot .plain

theorem query_plain (filter : Filter) :
    filter.query .plain = String.ofList (filter.written (Target.text .plain)) :=
  congrArg String.ofList filter.text_plain

theorem parse_query_eq_ok_iff {filter parsed : Filter}
    (hprintable : ∀ clause ∈ filter.clauses, clause.Printable)
    (hdepth : filter.depth ≤ Query.Parser.maxDepth) :
    Filter.parse (filter.query .plain) = .ok parsed ↔ filter.Legible ∧ parsed = filter.reread := by
  rw [query_plain, ← writable_plain_iff hprintable]
  constructor
  · intro h
    have hwritable := writable_of_parse tracks_plain hprintable h trivial
    rw [parse_written hwritable hdepth] at h
    exact ⟨hwritable, (Except.ok.inj h).symm⟩
  · intro h
    rw [h.2]
    exact parse_written h.1 hdepth

theorem reread_of_floats {filter : Filter}
    (hfloats : ∀ x, Number.float x ∈ filter.numbers → (Number.float x).ReadsBack) :
    filter.Legible ∧ filter.reread = filter := by
  have hnumbers : ∀ n ∈ filter.numbers, n.Legible ∧ n.reread = n :=
    fun n hn => readsBack_iff_reread.mp (readsBack_of_floats hfloats n hn)
  exact ⟨fun n hn => (hnumbers n hn).1, reread_eq_self fun n hn => (hnumbers n hn).2⟩

/-!
# Formatting
-/

theorem format_of_parse {query : String} {filter : Filter} (h : Filter.parse query = .ok filter)
    (style : Style) : Command.format query style = .ok (filter.query style) := by
  unfold Command.format Command.parseQuery
  rw [h]
  rfl

/--
A query is formatted to the canonical text of its filter.  That text is parsed to the filter with
its numbers read again, and is kept, with its meaning, exactly if this is the filter itself.  So it
is whenever the floats in it read back.
-/
theorem format_query {query : String} {filter : Filter} (h : Filter.parse query = .ok filter) :
    Command.format query .plain = .ok (filter.query .plain) ∧
    (∀ parsed, Filter.parse (filter.query .plain) = .ok parsed ↔
      filter.Legible ∧ parsed = filter.reread) ∧
    ((Command.format (filter.query .plain) .plain = .ok (filter.query .plain) ∧
      ∃ parsed, Filter.parse (filter.query .plain) = .ok parsed ∧ (parsed == filter) = true) ↔
      filter.Legible ∧ filter.reread = filter) ∧
    ((∀ x, Number.float x ∈ filter.numbers → (Number.float x).ReadsBack) →
      filter.Legible ∧ filter.reread = filter) := by
  rcases spells_of_parse h with ⟨_, _, _, hdepth⟩
  have hparse : ∀ parsed, Filter.parse (filter.query .plain) = .ok parsed ↔
      filter.Legible ∧ parsed = filter.reread :=
    fun parsed => parse_query_eq_ok_iff (printable_of_parse h) hdepth
  refine ⟨format_of_parse h .plain, hparse, ?_, reread_of_floats⟩
  constructor
  · intro hkept
    rcases hkept with ⟨_, parsed, hparsed, hsame⟩
    rcases (hparse parsed).mp hparsed with ⟨hlegible, rfl⟩
    exact ⟨hlegible, reread_eq_of_same hsame⟩
  · intro hstays
    have hparsed := (hparse filter).mpr ⟨hstays.1, hstays.2.symm⟩
    exact ⟨format_of_parse hparsed .plain, filter, hparsed, filter.same_self⟩

/-!
# Queries that are kept and changed
-/

theorem format_query_oneHalf :
    ∃ filter, Filter.parse "nil eq 0.5" = .ok filter ∧ filter.Legible ∧ filter.reread = filter := by
  have hformat : Command.format "nil eq 0.5" .plain = .ok "nil eq 0.5" := by decide +kernel
  cases hparse : Filter.parse "nil eq 0.5" with
  | error e =>
      unfold Command.format Command.parseQuery at hformat
      rw [hparse] at hformat
      cases hformat
  | ok filter =>
      rcases format_query hparse with ⟨hfirst, _, hkept, _⟩
      have hquery : filter.query .plain = "nil eq 0.5" := by
        rw [hfirst] at hformat
        exact Except.ok.inj hformat
      refine ⟨filter, rfl, hkept.mp ?_⟩
      rw [hquery]
      exact ⟨hformat, filter, hparse, filter.same_self⟩

theorem format_changes :
    Command.format "nil eq 1e-30" .plain = .ok "nil eq 9.999999999999999e-31" ∧
    Command.format "nil eq 9.999999999999999e-31" .plain = .ok "nil eq 1e-30" := by
  constructor <;> decide +kernel

end Filter
end RecordFilter
