import RecordFilter.Filter.Parser
import RecordFilter.Filter.Printer
import RecordFilter.Json.Printer

/-!
# Documents

Filters, operators and targets are kept in JSON documents as their texts, and literals as the
scalars that they stand for.
-/

namespace RecordFilter

inductive DocumentError where
  | wrongType (found : Json) (expected : String)
  | notScalar (found : Json)
  | query (cause : QueryError)
  | filter (cause : FilterError)

namespace DocumentError

def kindOf : Json → String
  | .null => "null"
  | .bool b => "boolean `" ++ (if b then "true" else "false") ++ "`"
  | .number (.integer n fits) =>
      "integer `" ++ String.ofList (Number.integer n fits).text ++ "`"
  | .number (.float x) => "floating point `" ++ String.ofList x.text ++ "`"
  | .string s => "string " ++ Text.inspect s
  | .array _ => "sequence"
  | .object _ => "map"

def message : DocumentError → String
  | wrongType found expected => "invalid type: " ++ kindOf found ++ ", expected " ++ expected
  | notScalar found => "expected a scalar literal, got " ++ found.typeName
  | query cause => cause.message
  | filter cause => cause.message

end DocumentError

namespace Document

def asText : Json → Except DocumentError String
  | .string s => .ok s
  | other => .error (.wrongType other "a string")

end Document

namespace Filter

def ofDocument (document : Json) : Except DocumentError Filter := do
  let text ← Document.asText document
  (Filter.parse text).mapError .query

def toDocument (filter : Filter) : Json :=
  .string (filter.query .plain)

end Filter

namespace Operator

def ofDocument (document : Json) : Except DocumentError Operator := do
  let keyword ← Document.asText document
  (Operator.parse keyword).mapError .filter

def toDocument (operator : Operator) : Json :=
  .string operator.keyword

end Operator

namespace Target

def ofDocument (document : Json) : Except DocumentError Target := do
  let pointer ← Document.asText document
  (Target.parse pointer).mapError fun cause => .filter (.invalidTarget cause)

def toDocument (target : Target) : Json :=
  .string target.pointer

end Target

namespace Literal

def ofDocument (document : Json) : Except DocumentError Literal :=
  match ofJson? document with
  | some value => .ok value
  | none => .error (.notScalar document)

def listOfDocument : Json → Except DocumentError (List Literal)
  | .array items => items.mapM ofDocument
  | other => .error (.wrongType other "a sequence")

def listToDocument (values : List Literal) : Json :=
  .array (values.map toJson)

end Literal

end RecordFilter
