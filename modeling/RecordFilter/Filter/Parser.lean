import RecordFilter.Filter.Basic
import RecordFilter.Query.Stream

/-!
# From tokens to filters

A filter is one element or more, joined by conjunctions.  An element is a clause or a filter in
parentheses; the object of a clause has the form that its operator asks for.  Parsing stops at the
first error and leaves the stream there.
-/

namespace RecordFilter
namespace Query

abbrev Parser := EStateM QueryError TokenStream

namespace Parser

/-!
# Single tokens
-/

def skip : Parser Unit :=
  modify TokenStream.advance

def refuse {α : Type} (expected : Expectation) : Parser α := do
  throw ((← get).unexpected expected)

/-- Takes the current token if it can be read as what is wanted. -/
def take {α : Type} (expected : Expectation) (read : TokenKind → Option α) : Parser α := do
  match (← get).kind?.bind read with
  | some value =>
      skip
      return value
  | none => refuse expected

def require (kind : TokenKind) (expected : Expectation) : Parser Unit :=
  take expected fun found => if found = kind then some () else none

/-!
# Clauses
-/

def operand (expected : Expectation) : Parser Operand :=
  take expected TokenKind.operand?

def operator : Parser Operator := do
  let stream ← get
  match stream.kind? with
  | some (.operator op) =>
      skip
      return op
  | some (.word keyword) => throw ⟨.unknownOperator keyword, stream.position⟩
  | _ => refuse .operator

def bound : Parser Literal :=
  take .bound TokenKind.bound?

def bounds : Parser (Literal × Literal) := do
  let lower ← bound
  require .comma .boundSeparator
  let upper ← bound
  return (lower, upper)

def pattern : Parser String :=
  take .pattern fun kind =>
    match kind with
    | .string raw => some raw
    | _ => none

/-- The elements of an array that has at least one; they are separated by commas. -/
def elements (opened stop : Nat) :
    List Token → EStateM.Result QueryError TokenStream (List Literal)
  | [] => .error ⟨.unterminatedArray, opened⟩ ⟨[], stop⟩
  | token :: rest =>
      match token.kind.literal? with
      | none =>
          let stream : TokenStream := ⟨token :: rest, stop⟩
          .error (stream.unexpected .arrayElement) stream
      | some item =>
          match rest with
          | [] => .error ⟨.unterminatedArray, opened⟩ ⟨[], stop⟩
          | separator :: rest =>
              if separator.kind = .comma then
                match elements opened stop rest with
                | .ok items stream => .ok (item :: items) stream
                | .error e stream => .error e stream
              else if separator.kind = .closeArray then .ok [item] ⟨rest, stop⟩
              else
                let stream : TokenStream := ⟨separator :: rest, stop⟩
                .error (stream.unexpected .arraySeparator) stream

def array : Parser (List Literal) := do
  let opened := (← get).position
  require .openArray .array
  let stream ← get
  if stream.kind? = some .closeArray then
    skip
    return []
  else fun stream => elements opened stream.stop stream.rest

/-- Reads an object of the form that the operator asks for, and binds it. -/
def object (operator : Operator) (clause : Clause) : Parser (Except FilterError Clause) := do
  match operator.family with
  | .comparison => return clause.bind (.operand (← operand .comparand))
  | .membership => return clause.bindArray (← array)
  | .range =>
      let (lower, upper) ← bounds
      return clause.bindLiterals lower upper
  | .pattern => return clause.bindPattern (← pattern)

/-- What the builder refuses is an error at the place where the clause starts. -/
def built (position : Nat) : Except FilterError Clause → Parser Clause
  | .ok clause => return clause
  | .error e => throw ⟨.invalidClause e, position⟩

def clause : Parser Clause := do
  let position := (← get).position
  let subject ← operand .subject
  let op ← operator
  let selected ← built position ((Clause.ofOperand subject).select op)
  let result ← object op selected
  built position result

/-!
# Filters

The readers of elements are given the reader of groups, which carries the depth that is left.
Every further element takes up its conjunction, so the number of tokens bounds the number of
rounds.
-/

def element (group : Parser Filter) : Parser Node := do
  if (← get).kind? = some .openGroup then return .group (← group)
  else return .clause (← clause)

def conjunction? : TokenKind → Option Conjunction
  | .and => some .and
  | .or => some .or
  | _ => none

def joined (element : Parser Node) : Nat → Filter → Parser Filter
  | 0, filter => return filter
  | rounds + 1, filter => do
      let kind := (← get).kind?
      if kind = none ∨ kind = some .closeGroup then return filter
      else
        let conjunction ← take .conjunction conjunction?
        let node ← element
        joined element rounds (.join filter conjunction node)

/-- A filter up to the end of the tokens or to a closing parenthesis. -/
def condition (group : Parser Filter) : Parser Filter := do
  let first ← element group
  let rounds := (← get).rest.length
  joined (element group) rounds (.single first)

def enclosed (inner : Parser Filter) : Parser Filter := do
  let opened := (← get).position
  skip
  let filter ← inner
  if (← get).kind? = some .closeGroup then
    skip
    return filter
  else throw ⟨.unterminatedGroup, opened⟩

/-- How many groups may be open at once. -/
def maxDepth : Nat := 128

def tooDeep : Parser Filter := do
  throw ⟨.nestingTooDeep maxDepth, (← get).position⟩

/-- A filter in which groups nest at most `depth` deep. -/
def nested : Nat → Parser Filter
  | 0 => condition tooDeep
  | depth + 1 => condition (enclosed (nested depth))

/-- A filter that takes up all the tokens. -/
def filter : Parser Filter := do
  let result ← nested maxDepth
  if (← get).isAtEnd then return result else refuse .conjunctionOrEnd

end Parser

/-- The result of parsing a stream, and the stream where parsing stopped. -/
def TokenStream.parse (stream : TokenStream) : Except QueryError Filter × TokenStream :=
  match Parser.filter stream with
  | .ok filter stream => (.ok filter, stream)
  | .error e stream => (.error e, stream)

end Query

namespace Filter

def parse (text : String) : Except QueryError Filter := do
  let stream ← Query.TokenStream.ofText text
  stream.parse.1

end Filter

end RecordFilter
