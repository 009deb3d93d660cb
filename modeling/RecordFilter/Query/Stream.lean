import RecordFilter.Query.Lexer

/-!
# Token streams

A stream gives out tokens one after the other and knows the position behind the last of them.
-/

namespace RecordFilter
namespace Query

structure TokenStream where
  rest : List Token
  stop : Nat
deriving DecidableEq

namespace TokenStream

def ofText (text : String) : Except QueryError TokenStream :=
  (tokenize text.toList).map fun tokens => ⟨tokens, text.length⟩

def current? (stream : TokenStream) : Option Token :=
  stream.rest.head?

def kind? (stream : TokenStream) : Option TokenKind :=
  stream.current?.map Token.kind

/-- The stream behind its current token. -/
def advance (stream : TokenStream) : TokenStream :=
  { stream with rest := stream.rest.drop 1 }

def position (stream : TokenStream) : Nat :=
  match stream.current? with
  | some token => token.position
  | none => stream.stop

def isAtEnd (stream : TokenStream) : Bool :=
  stream.rest.isEmpty

/-- The error of a stream that does not go on as it should. -/
def unexpected (stream : TokenStream) (expected : Expectation) : QueryError :=
  match stream.current? with
  | some token => ⟨.unexpectedToken expected token.kind, token.position⟩
  | none => ⟨.unexpectedEnd expected, stream.stop⟩

end TokenStream

end Query
end RecordFilter
