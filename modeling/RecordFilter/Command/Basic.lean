import RecordFilter.Filter.Evaluation
import RecordFilter.Json.Printer
import RecordFilter.Json.Reader
import RecordFilter.Filter.Parser
import RecordFilter.Filter.Printer

/-!
# Commands

A query can be checked for its syntax, run over a stream of records, or brought into canonical
form.  A faulty query is reported before the records are looked at.
-/

namespace RecordFilter

inductive CommandError where
  | query (cause : QueryError)
  | json (cause : ReadError)
  | noInput
deriving DecidableEq

namespace CommandError

/-- The wording of faults in records is left open. -/
def message : CommandError → String
  | query cause => "Parse error: " ++ cause.message
  | json _ => "Invalid JSON: "
  | noInput => "No input provided. Use --input or pipe JSON to stdin."

end CommandError

namespace Command

def readRecords (input : String) : Except CommandError (List Json) :=
  (Json.readRecords input.toList).mapError .json

def parseQuery (query : String) : Except CommandError Filter :=
  (Filter.parse query).mapError .query

inductive CheckResult where
  /-- The canonical text of a query that was only checked for its syntax. -/
  | syntaxValid (text : String)
  /-- The records that satisfy the filter, in their order. -/
  | matched (records : List Json)

structure CheckOptions where
  query : String
  input : Option String := none
  syntaxOnly : Bool := false

def check [Pattern.Engine] (options : CheckOptions) : Except CommandError CheckResult := do
  let filter ← parseQuery options.query
  if options.syntaxOnly then return .syntaxValid (filter.query .plain)
  else
    match options.input with
    | none => throw .noInput
    | some input =>
        let records ← readRecords input
        return .matched (records.filter fun record => filter.holds record)

def format (query : String) (style : Style) : Except CommandError String := do
  let filter ← parseQuery query
  return filter.query style

end Command

end RecordFilter
