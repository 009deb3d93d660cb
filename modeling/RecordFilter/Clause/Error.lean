import RecordFilter.Clause.Basic

/-!
# Errors of building and evaluating

A call can come at the wrong stage, an object can have the wrong shape, a keyword can name no
operator, and a text can be no pointer.
-/

namespace RecordFilter

/-- What was asked of a clause. -/
inductive Request where
  | selectOperator
  | bindObject
  | serialize
  | addToFilter
deriving DecidableEq

namespace Request

def message : Request → String
  | selectOperator => "select an operator for"
  | bindObject => "bind an object to"
  | serialize => "serialize"
  | addToFilter => "add to a filter"

end Request

inductive FilterError where
  | invalidSequence (request : Request) (stage : Stage)
  | typeMismatch (operator : Operator) (expected found : String)
  | unknownOperator (keyword : String)
  | invalidTarget (cause : PointerError)
deriving DecidableEq

namespace FilterError

def message : FilterError → String
  | invalidSequence request stage =>
      "invalid sequence: cannot " ++ request.message ++ " a clause in stage " ++ stage.name
  | typeMismatch operator expected found =>
      "type mismatch: `" ++ operator.keyword ++ "` expects " ++ expected ++ ", got " ++ found
  | unknownOperator keyword => "unknown operator `" ++ keyword ++ "`"
  | invalidTarget cause => cause.message

def rootTarget : FilterError :=
  .invalidTarget ⟨"", .root⟩

end FilterError

namespace Operator

def parse (keyword : String) : Except FilterError Operator :=
  match ofKeyword? keyword with
  | some operator => .ok operator
  | none => .error (.unknownOperator keyword)

end Operator

end RecordFilter
