import RecordFilter.Command.Line
import RecordFilter.Proofs.Json.Streams

/-!
# Running a query over records

A check returns the records of its input that satisfy the filter, or the fault of the input and no
record at all.  So checking two inputs with a line break between them is checking each of them.
-/

namespace RecordFilter
namespace Command

/-- A query that is run over records. -/
def onInput (query input : String) : CheckOptions :=
  { query := query, input := some input }

section Checked

variable [Pattern.Engine] {query : String} {filter : Filter} (hparse : Filter.parse query = .ok filter)
include hparse

theorem check_onInput (input : String) :
    check (onInput query input) = ((Json.readRecords input.toList).mapError .json).map
      fun records => .matched (records.filter fun record => filter.holds record) := by
  rw [check, parseQuery, onInput, hparse]
  simp only [Except.mapError, readRecords]
  cases Json.readRecords input.toList with
  | error cause => rfl
  | ok records => rfl

theorem check_eq_ok_iff {input : String} {result : CheckResult} :
    check (onInput query input) = .ok result ↔
      ∃ records, Json.Streams input.toList records none ∧
        result = .matched (records.filter fun record => filter.holds record) := by
  simp only [check_onInput hparse, ← Json.readRecords_eq_ok_iff]
  cases Json.readRecords input.toList with
  | error cause =>
      constructor
      · intro h
        cases h
      · rintro ⟨records, hrecords, -⟩
        cases hrecords
  | ok records =>
      constructor
      · intro h
        cases h
        exact ⟨records, rfl, rfl⟩
      · rintro ⟨records, hrecords, rfl⟩
        cases hrecords
        rfl

theorem check_eq_error_iff {input : String} {e : CommandError} :
    check (onInput query input) = .error e ↔
      ∃ cause, e = .json cause ∧ ∃ records, Json.Streams input.toList records (some cause) := by
  simp only [check_onInput hparse, ← Json.readRecords_eq_error_iff]
  cases Json.readRecords input.toList with
  | error cause =>
      constructor
      · intro h
        cases h
        exact ⟨cause, rfl, rfl⟩
      · rintro ⟨cause, rfl, hcause⟩
        cases hcause
        rfl
  | ok records =>
      constructor
      · intro h
        cases h
      · rintro ⟨cause, -, hcause⟩
        cases hcause

theorem exists_matched {input : String} (h : (check (onInput query input)).isOk = true) :
    ∃ records, check (onInput query input) = .ok (.matched records) := by
  cases hcheck : check (onInput query input) with
  | error e =>
      rw [hcheck] at h
      cases h
  | ok result =>
      rcases (check_eq_ok_iff hparse).mp hcheck with ⟨records, _, rfl⟩
      exact ⟨_, rfl⟩

/-- Documents with a line break behind each of them are checked one by one. -/
theorem check_lines {documents : List (List Char)} {records : List Json}
    (h : List.Forall₂ (fun text record => Json.parse text = .ok record) documents records) :
    check (onInput query (String.ofList (documents.flatMap fun text => text ++ ['\n']))) =
      .ok (.matched (records.filter fun record => filter.holds record)) := by
  have hstreams : Json.Streams
      (String.ofList (documents.flatMap fun text => text ++ ['\n'])).toList records none := by
    rw [String.toList_ofList]
    exact Json.streams_lines h
  exact (check_eq_ok_iff hparse).mpr ⟨records, hstreams, rfl⟩

end Checked

theorem streams_joined {a b : String} {records others : List Json} {fault : Option ReadError}
    (ha : Json.Streams a.toList records none) (hb : Json.Streams b.toList others fault) :
    Json.Streams (a ++ "\n" ++ b).toList (records ++ others) fault := by
  rw [String.toList_append, String.toList_append, List.append_assoc]
  exact ha.append hb rfl

/--
The matches of two inputs are those of the inputs with a line break between them, and a fault of
the second input is the fault of both.  The matches are the records of the input that satisfy the
filter, in their order and as often as they occur; where there is a fault, there are none.
-/
theorem check_joined [Pattern.Engine] {query : String} {filter : Filter}
    (hparse : Filter.parse query = .ok filter) :
    (∀ a b xs ys, check (onInput query a) = .ok (.matched xs) →
      check (onInput query b) = .ok (.matched ys) →
      check (onInput query (a ++ "\n" ++ b)) = .ok (.matched (xs ++ ys))) ∧
    (∀ a b xs e, check (onInput query a) = .ok (.matched xs) →
      check (onInput query b) = .error e →
      ∃ cause, e = .json cause ∧ check (onInput query (a ++ "\n" ++ b)) = .error (.json cause)) ∧
    (∀ input result, check (onInput query input) = .ok result ↔
      ∃ records, Json.Streams input.toList records none ∧
        result = .matched (records.filter fun record => filter.holds record)) ∧
    ∀ input e, check (onInput query input) = .error e ↔
      ∃ cause, e = .json cause ∧ ∃ records, Json.Streams input.toList records (some cause) := by
  refine ⟨?_, ?_, fun _ _ => check_eq_ok_iff hparse, fun _ _ => check_eq_error_iff hparse⟩
  · intro a b xs ys ha hb
    rcases (check_eq_ok_iff hparse).mp ha with ⟨records, hrecords, hxs⟩
    rcases (check_eq_ok_iff hparse).mp hb with ⟨others, hothers, hys⟩
    cases hxs
    cases hys
    rw [← List.filter_append]
    exact (check_eq_ok_iff hparse).mpr ⟨_, streams_joined hrecords hothers, rfl⟩
  · intro a b xs e ha hb
    rcases (check_eq_ok_iff hparse).mp ha with ⟨records, hrecords, -⟩
    rcases (check_eq_error_iff hparse).mp hb with ⟨cause, rfl, others, hothers⟩
    exact ⟨cause, rfl,
      (check_eq_error_iff hparse).mpr ⟨cause, rfl, _, streams_joined hrecords hothers⟩⟩

/-- Numbers that would run into each other meet where the inputs are joined. -/
theorem check_joined_numbers :
    ∃ filter xs ys, Filter.parse "/0 eq 1" = .ok filter ∧
      check (onInput "/0 eq 1" "[1]2") = .ok (.matched xs) ∧
      check (onInput "/0 eq 1" "3 [1.0]") = .ok (.matched ys) ∧
      check (onInput "/0 eq 1" ("[1]2" ++ "\n" ++ "3 [1.0]")) = .ok (.matched (xs ++ ys)) ∧
      (CheckResult.matched (xs ++ ys)).output = "[1]\n[1.0]\n" := by
  have hquery : (Filter.parse "/0 eq 1").isOk = true := by decide +kernel
  have ha : (check (onInput "/0 eq 1" "[1]2")).isOk = true := by decide +kernel
  have hb : (check (onInput "/0 eq 1" "3 [1.0]")).isOk = true := by decide +kernel
  have houtput : (check (onInput "/0 eq 1" ("[1]2" ++ "\n" ++ "3 [1.0]"))).map
      CheckResult.output = .ok "[1]\n[1.0]\n" := by
    decide +kernel
  cases hparse : Filter.parse "/0 eq 1" with
  | error e =>
      rw [hparse] at hquery
      cases hquery
  | ok filter =>
      rcases exists_matched hparse ha with ⟨xs, hxs⟩
      rcases exists_matched hparse hb with ⟨ys, hys⟩
      have hjoined := (check_joined hparse).1 _ _ xs ys hxs hys
      rw [hjoined] at houtput
      exact ⟨filter, xs, ys, rfl, hxs, hys, hjoined, Except.ok.inj houtput⟩

end Command
end RecordFilter
