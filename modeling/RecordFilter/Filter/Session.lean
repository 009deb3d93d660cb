import RecordFilter.Filter.Parser

/-!
# Parsing one filter after the other

A session keeps its place in the tokens between one call and the next, whatever comes of the calls.
While it reads, it counts the groups that are open, and it opens none that would be too many.
-/

namespace RecordFilter
namespace Query

structure Session where
  stream : TokenStream
  /-- How many groups are open. -/
  depth : Nat
deriving DecidableEq

namespace Session

def start (stream : TokenStream) : Session :=
  ⟨stream, 0⟩

abbrev Reader := EStateM QueryError Session

/-!
# Readers
-/

/-- What opens no group takes up tokens and nothing else. -/
def flat {α : Type} (parser : Parser α) : Reader α := fun session =>
  match parser session.stream with
  | .ok value stream => .ok value { session with stream := stream }
  | .error e stream => .error e { session with stream := stream }

/-- One more group is open while the reader is at work, be it successful or not. -/
def deeper {α : Type} (reader : Reader α) : Reader α := fun session =>
  match reader { session with depth := session.depth + 1 } with
  | .ok value after => .ok value { after with depth := after.depth - 1 }
  | .error e after => .error e { after with depth := after.depth - 1 }

/-- A group whose opening parenthesis is the next token, at the given position. -/
def enclosed (opened : Nat) (inner : Reader Filter) : Reader Filter := do
  flat Parser.skip
  let filter ← deeper inner
  if (← get).stream.kind? = some .closeGroup then
    flat Parser.skip
    return filter
  else throw ⟨.unterminatedGroup, opened⟩

def group (inner : Reader Filter) : Reader Filter := do
  let session ← get
  if Parser.maxDepth ≤ session.depth then flat Parser.tooDeep
  else enclosed session.stream.position inner

def element (group : Reader Filter) : Reader Node := do
  if (← get).stream.kind? = some .openGroup then return .group (← group)
  else return .clause (← flat Parser.clause)

def joined (element : Reader Node) : Nat → Filter → Reader Filter
  | 0, filter => return filter
  | rounds + 1, filter => do
      let kind := (← get).stream.kind?
      if kind = none ∨ kind = some .closeGroup then return filter
      else
        let conjunction ← flat (Parser.take .conjunction Parser.conjunction?)
        let node ← element
        joined element rounds (.join filter conjunction node)

def condition (group : Reader Filter) : Reader Filter := do
  let first ← element group
  let rounds := (← get).stream.rest.length
  joined (element group) rounds (.single first)

/--
A filter whose groups nest within so many levels.  The levels only bound the recursion: where they
are more than the groups that may still be opened, it is the count of open groups that refuses.
-/
def nested : Nat → Reader Filter
  | 0 => flat Parser.tooDeep
  | levels + 1 => condition (group (nested levels))

def filter : Reader Filter := do
  let result ← nested (Parser.maxDepth + 1)
  if (← get).stream.isAtEnd then return result else flat (Parser.refuse .conjunctionOrEnd)

/-!
# Calls
-/

/-- The result of one call, and the session as the next call finds it. -/
def parse (session : Session) : Except QueryError Filter × Session :=
  match filter session with
  | .ok filter session => (.ok filter, session)
  | .error e session => (.error e, session)

/-- The session behind so many calls. -/
def afterCalls (session : Session) : Nat → Session
  | 0 => session
  | calls + 1 => (session.afterCalls calls).parse.2

end Session
end Query
end RecordFilter
