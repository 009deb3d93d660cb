import RecordFilter.Clause.Error
import RecordFilter.Query.Token

/-!
# Errors in queries

A query is refused for one reason at one place, counted in characters from its start.
-/

namespace RecordFilter
namespace Query

/-- What would have let the query go on. -/
inductive Expectation where
  | subject
  | operator
  | comparand
  | array
  | arrayElement
  | arraySeparator
  | bound
  | boundSeparator
  | pattern
  | conjunction
  | conjunctionOrEnd
deriving DecidableEq

namespace Expectation

def message : Expectation → String
  | subject => "a target or literal subject"
  | operator => "an operator"
  | comparand => "a target or literal"
  | array => "`[`"
  | arrayElement => "an array element"
  | arraySeparator => "`,` or `]`"
  | bound => "a number, string or nil bound"
  | boundSeparator => "`,` between range bounds"
  | pattern => "a string pattern"
  | conjunction => "`and` or `or`"
  | conjunctionOrEnd => "`and`, `or` or end of input"

end Expectation

inductive TargetFault where
  | notText
  | pointer (cause : PointerError)
deriving DecidableEq

namespace TargetFault

def message : TargetFault → String
  | notText => "percent-escapes do not decode to UTF-8"
  | pointer cause => cause.message

end TargetFault

inductive Fault where
  | unexpectedToken (expected : Expectation) (found : TokenKind)
  | unexpectedEnd (expected : Expectation)
  | unknownOperator (keyword : String)
  | unterminatedGroup
  | unterminatedArray
  | unexpectedCharacter (c : Char)
  | unterminatedString
  | invalidEscape (c : Char)
  | invalidNumber (text : String)
  | invalidTarget (raw : String) (cause : TargetFault)
  | invalidClause (cause : FilterError)
  | nestingTooDeep (limit : Nat)
deriving DecidableEq

end Query

structure QueryError where
  fault : Query.Fault
  position : Nat
deriving DecidableEq

namespace QueryError

open Query.Fault in
def message (e : QueryError) : String :=
  let place := "position " ++ toString e.position
  match e.fault with
  | unexpectedToken expected found =>
      "expected " ++ expected.message ++ ", got " ++ found.describe ++ " at " ++ place
  | unexpectedEnd expected =>
      "expected " ++ expected.message ++ ", got end of input at " ++ place
  | unknownOperator keyword => "unknown operator `" ++ keyword ++ "` at " ++ place
  | unterminatedGroup => "group opened at " ++ place ++ " is never closed"
  | unterminatedArray => "array opened at " ++ place ++ " is never closed"
  | unexpectedCharacter c => "unexpected character '" ++ c.toString ++ "' at " ++ place
  | unterminatedString => "unterminated string starting at " ++ place
  | invalidEscape c => "invalid escape sequence '\\" ++ c.toString ++ "' at " ++ place
  | invalidNumber text => "invalid number `" ++ text ++ "` at " ++ place
  | invalidTarget raw cause =>
      "invalid target `" ++ raw ++ "` at " ++ place ++ ": " ++ cause.message
  | invalidClause cause => "invalid clause at " ++ place ++ ": " ++ cause.message
  | nestingTooDeep limit =>
      "groups nested deeper than " ++ toString limit ++ " levels at " ++ place

end QueryError

end RecordFilter
