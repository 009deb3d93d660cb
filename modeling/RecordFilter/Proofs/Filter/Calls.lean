import RecordFilter.Filter.Session
import RecordFilter.Proofs.Query.Parsing

/-!
# Calling a session again

The count of open groups is raised and lowered around a reader that can fail anywhere.  Whatever
comes of the reader, the count is what it was before, so a session between two calls is no
different from a new one over the tokens that are left.
-/

namespace RecordFilter
namespace Query
namespace Session

/-!
# Readers and parsers
-/

/-- At this depth, the reader does with the tokens what the parser does, and keeps the depth. -/
def Follows {α : Type} (depth : Nat) (reader : Reader α) (parser : Parser α) : Prop :=
  ∀ stream, reader ⟨stream, depth⟩ = flat parser ⟨stream, depth⟩

section Steps

variable {α β : Type} {depth : Nat} {stream after : TokenStream} {parser : Parser α}

theorem flat_ok {value : α} (h : parser stream = .ok value after) :
    flat parser ⟨stream, depth⟩ = .ok value ⟨after, depth⟩ := by
  simp only [flat, h]

theorem flat_error {e : QueryError} (h : parser stream = .error e after) :
    flat parser ⟨stream, depth⟩ = .error e ⟨after, depth⟩ := by
  simp only [flat, h]

theorem flat_congr {other : TokenStream} {parser' : Parser α} (h : parser stream = parser' other) :
    flat parser ⟨stream, depth⟩ = flat parser' ⟨other, depth⟩ := by
  simp only [flat, h]

theorem follows_flat (parser : Parser α) : Follows depth (flat parser) parser :=
  fun _ => rfl

theorem follows_pure (value : α) : Follows depth (pure value) (pure value) :=
  fun _ => rfl

theorem Follows.bind {first : Reader α} {first' : Parser α} {second : α → Reader β}
    {second' : α → Parser β} (hfirst : Follows depth first first')
    (hsecond : ∀ value, Follows depth (second value) (second' value)) :
    Follows depth (first >>= second) (first' >>= second') := by
  intro stream
  show EStateM.bind first second ⟨stream, depth⟩ = _
  rw [EStateM.bind, hfirst stream]
  cases hrun : first' stream with
  | ok value after =>
      rw [flat_ok hrun, flat_congr (run_bind_ok hrun)]
      exact hsecond value after
  | error e after =>
      rw [flat_error hrun, flat_error (run_bind_error hrun)]

/-- Both look at the same tokens to decide how to go on. -/
theorem Follows.branch (p : TokenStream → Prop) [DecidablePred p] {yes no : Reader α}
    {yes' no' : Parser α} (hyes : Follows depth yes yes') (hno : Follows depth no no') :
    Follows depth (do if p (← get).stream then yes else no)
      (do if p (← get) then yes' else no') := by
  intro stream
  have hparser : (do if p (← get) then yes' else no' : Parser α) stream =
      (if p stream then yes' else no') stream := run_bind_ok (run_get stream)
  rw [flat_congr hparser]
  show (if p stream then yes else no) ⟨stream, depth⟩ = _
  by_cases h : p stream
  · rw [if_pos h, if_pos h]
    exact hyes stream
  · rw [if_neg h, if_neg h]
    exact hno stream

theorem Follows.deeper {inner : Reader α} (h : Follows (depth + 1) inner parser) :
    Follows depth (deeper inner) parser := by
  intro stream
  rw [Session.deeper, h stream]
  cases hrun : parser stream with
  | ok value after =>
      rw [flat_ok hrun, flat_ok hrun]
      rfl
  | error e after =>
      rw [flat_error hrun, flat_error hrun]
      rfl

end Steps

/-!
# Filters
-/

section Filters

variable {depth : Nat}

theorem Follows.element {group : Reader Filter} {parser : Parser Filter}
    (h : Follows depth group parser) :
    Follows depth (element group) (Parser.element parser) :=
  Follows.branch (fun stream => stream.kind? = some .openGroup)
    (h.bind fun _ => follows_pure _) ((follows_flat Parser.clause).bind fun _ => follows_pure _)

theorem Follows.joined {element : Reader Node} {parser : Parser Node}
    (h : Follows depth element parser) (rounds : Nat) (filter : Filter) :
    Follows depth (joined element rounds filter) (Parser.joined parser rounds filter) := by
  induction rounds generalizing filter with
  | zero =>
      exact follows_pure filter
  | succ rounds ih =>
      refine Follows.branch
        (fun stream => stream.kind? = none ∨ stream.kind? = some .closeGroup)
        (follows_pure filter) ?_
      exact (follows_flat _).bind fun conjunction => h.bind fun node =>
        ih (.join filter conjunction node)

theorem Follows.condition {group : Reader Filter} {parser : Parser Filter}
    (h : Follows depth group parser) :
    Follows depth (condition group) (Parser.condition parser) := by
  refine h.element.bind ?_
  intro first stream
  exact h.element.joined stream.rest.length (.single first) stream

theorem Follows.enclosed {inner : Reader Filter} {parser : Parser Filter}
    (h : Follows (depth + 1) inner parser) (opened : Nat) :
    Follows depth (enclosed opened inner)
      (do
        Parser.skip
        let filter ← parser
        closing opened filter) := by
  refine (follows_flat Parser.skip).bind fun _ => h.deeper.bind fun filter => ?_
  exact Follows.branch (fun stream => stream.kind? = some .closeGroup)
    ((follows_flat Parser.skip).bind fun _ => follows_pure filter) fun _ => rfl

/-- Below the limit, a group is opened and read one level deeper. -/
theorem Follows.group {inner : Reader Filter} {parser : Parser Filter}
    (hdepth : depth < Parser.maxDepth) (h : Follows (depth + 1) inner parser) :
    Follows depth (group inner) (Parser.enclosed parser) := by
  intro stream
  have hopen : Session.group inner ⟨stream, depth⟩ =
      Session.enclosed stream.position inner ⟨stream, depth⟩ :=
    congrFun (if_neg (Nat.not_le_of_lt hdepth)) _
  rw [hopen, h.enclosed stream.position stream]
  rfl

/-- At the limit, no group is opened. -/
theorem follows_tooDeep (hdepth : Parser.maxDepth ≤ depth) (inner : Reader Filter) :
    Follows depth (group inner) Parser.tooDeep := by
  intro stream
  have hfull : Session.group inner ⟨stream, depth⟩ = flat Parser.tooDeep ⟨stream, depth⟩ :=
    congrFun (if_pos hdepth) _
  exact hfull

/-- By induction on the groups that may still be opened, of which the levels are more. -/
theorem follows_nested {remaining levels : Nat} (hdepth : depth + remaining = Parser.maxDepth)
    (hlevels : remaining < levels) : Follows depth (nested levels) (Parser.nested remaining) := by
  induction remaining generalizing depth levels with
  | zero =>
      cases levels with
      | zero =>
          cases hlevels
      | succ levels =>
          have hfull : Parser.maxDepth ≤ depth := Nat.le_of_eq hdepth.symm
          exact (follows_tooDeep hfull (nested levels)).condition
  | succ remaining ih =>
      cases levels with
      | zero =>
          cases hlevels
      | succ levels =>
          have hinner : Follows (depth + 1) (nested levels) (Parser.nested remaining) :=
            ih (by omega) (Nat.lt_of_succ_lt_succ hlevels)
          exact (hinner.group (by omega)).condition

theorem follows_filter : Follows 0 filter Parser.filter := by
  refine (follows_nested (Nat.zero_add _) (Nat.lt_succ_self _)).bind fun result => ?_
  exact Follows.branch (fun stream => stream.isAtEnd) (follows_pure result) (follows_flat _)

end Filters

/-!
# Calls
-/

theorem parse_start (stream : TokenStream) :
    (start stream).parse = (stream.parse.1, start stream.parse.2) := by
  have hrun : filter (start stream) = flat Parser.filter ⟨stream, 0⟩ := follows_filter stream
  unfold Session.parse TokenStream.parse
  rw [hrun]
  cases hparse : Parser.filter stream with
  | ok result after =>
      rw [flat_ok hparse]
      rfl
  | error e after =>
      rw [flat_error hparse]
      rfl

/-- A call leaves the end of the tokens that it was given, and nothing if it succeeds. -/
theorem parse_leaves (tokens : List Token) (stop : Nat) :
    ∃ left, (TokenStream.mk tokens stop).parse.2 = ⟨left, stop⟩ ∧ left <:+ tokens ∧
      ∀ filter, (TokenStream.mk tokens stop).parse.1 = .ok filter → left = [] := by
  unfold TokenStream.parse
  cases hrun : Parser.filter ⟨tokens, stop⟩ with
  | ok result after =>
      rcases reads_filter.returns trivial hrun with ⟨taken, left, rfl, rfl, _, hnone⟩
      refine ⟨left, rfl, List.suffix_append taken left, fun _ _ => ?_⟩
      cases left with
      | nil =>
          rfl
      | cons token rest =>
          cases hnone
  | error e after =>
      rcases reads_filter.refuses trivial hrun with ⟨taken, left, rfl, rfl, _⟩
      exact ⟨left, rfl, List.suffix_append taken left, nofun⟩

theorem parse_nil (stop : Nat) :
    (start ⟨[], stop⟩).parse = (.error ⟨.unexpectedEnd .subject, stop⟩, start ⟨[], stop⟩) :=
  parse_start ⟨[], stop⟩

/-- How many of the tokens a session has behind it. -/
def cursor (tokens : List Token) (session : Session) : Nat :=
  tokens.length - session.stream.rest.length

section Calls

variable (tokens : List Token) (stop : Nat)

/-- Between two calls no group is open. -/
theorem exists_afterCalls (calls : Nat) :
    ∃ left, (start ⟨tokens, stop⟩).afterCalls calls = start ⟨left, stop⟩ ∧ left <:+ tokens := by
  induction calls with
  | zero =>
      exact ⟨tokens, rfl, List.suffix_refl tokens⟩
  | succ calls ih =>
      rcases ih with ⟨left, hsession, hsuffix⟩
      rcases parse_leaves left stop with ⟨left', hleft, hsuffix', -⟩
      refine ⟨left', ?_, hsuffix'.trans hsuffix⟩
      rw [afterCalls, hsession, parse_start, hleft]

theorem afterCalls_eq (calls : Nat) :
    (start ⟨tokens, stop⟩).afterCalls calls =
      start ⟨tokens.drop (cursor tokens ((start ⟨tokens, stop⟩).afterCalls calls)), stop⟩ := by
  rcases exists_afterCalls tokens stop calls with ⟨left, hsession, hsuffix⟩
  have hcursor : cursor tokens (start ⟨left, stop⟩) = tokens.length - left.length := rfl
  rw [hsession, hcursor, ← List.suffix_iff_eq_drop.mp hsuffix]

theorem cursor_le_succ (calls : Nat) :
    cursor tokens ((start ⟨tokens, stop⟩).afterCalls calls) ≤
      cursor tokens ((start ⟨tokens, stop⟩).afterCalls (calls + 1)) := by
  rcases exists_afterCalls tokens stop calls with ⟨left, hsession, -⟩
  rcases parse_leaves left stop with ⟨left', hleft, hsuffix, -⟩
  rw [afterCalls, hsession, parse_start, hleft]
  exact Nat.sub_le_sub_left hsuffix.length_le tokens.length

variable {tokens stop}

theorem afterCalls_nil {session : Session} {calls : Nat}
    (h : session.afterCalls calls = start ⟨[], stop⟩) (more : Nat) :
    session.afterCalls (calls + more) = start ⟨[], stop⟩ := by
  induction more with
  | zero =>
      exact h
  | succ more ih =>
      rw [← Nat.add_assoc, afterCalls, ih, parse_nil]

/-- A filter takes up all the tokens. -/
theorem afterCalls_of_ok {calls : Nat} {filter : Filter}
    (h : ((start ⟨tokens, stop⟩).afterCalls calls).parse.1 = .ok filter) {later : Nat}
    (hlater : calls < later) : (start ⟨tokens, stop⟩).afterCalls later = start ⟨[], stop⟩ := by
  rcases exists_afterCalls tokens stop calls with ⟨left, hsession, -⟩
  rcases parse_leaves left stop with ⟨left', hleft, -, hall⟩
  rw [hsession, parse_start] at h
  have hnext : (start ⟨tokens, stop⟩).afterCalls (calls + 1) = start ⟨[], stop⟩ := by
    rw [afterCalls, hsession, parse_start, hleft, hall filter h]
  rcases Nat.exists_eq_add_of_le (Nat.succ_le_of_lt hlater) with ⟨more, rfl⟩
  exact afterCalls_nil hnext more

end Calls

/--
Whatever the calls of a session come to, the next call finds no group open and the cursor where
the last one has left it, which is never further back.  It returns what a new session, and what
the parser, returns for the tokens from there on.  Once a call has returned a filter, all others
find the end of the tokens.
-/
theorem parse_again (tokens : List Token) (stop calls : Nat) :
    let session := (start ⟨tokens, stop⟩).afterCalls calls
    let unread := tokens.drop (cursor tokens session)
    session.depth = 0 ∧ session.stream = ⟨unread, stop⟩ ∧
    cursor tokens session ≤ tokens.length ∧
    cursor tokens session ≤ cursor tokens session.parse.2 ∧
    session.parse.1 = (start ⟨unread, stop⟩).parse.1 ∧
    session.parse.1 = (TokenStream.mk unread stop).parse.1 ∧
    ∀ filter, session.parse.1 = .ok filter → ∀ later, calls < later →
      ((start ⟨tokens, stop⟩).afterCalls later).parse.1 =
        .error ⟨.unexpectedEnd .subject, stop⟩ := by
  intro session unread
  have hsession : session = start ⟨unread, stop⟩ := afterCalls_eq tokens stop calls
  refine ⟨congrArg depth hsession, congrArg stream hsession, Nat.sub_le _ _,
    cursor_le_succ tokens stop calls, ?_, ?_, ?_⟩
  · rw [← hsession]
  · rw [hsession, parse_start]
  · intro filter hok later hlater
    rw [afterCalls_of_ok hok hlater, parse_nil]

/-- The tokens of `(nil nil eq nil`, where an operator is missing inside a group. -/
def brokenGroup : TokenStream :=
  ⟨[⟨.openGroup, 0⟩, ⟨.nil, 1⟩, ⟨.nil, 5⟩, ⟨.operator .eq, 9⟩, ⟨.nil, 12⟩], 15⟩

theorem parse_again_brokenGroup :
    (start brokenGroup).parse.1 = .error ⟨.unexpectedToken .operator .nil, 5⟩ ∧
    ((start brokenGroup).afterCalls 1).depth = 0 ∧
    (∃ filter, ((start brokenGroup).afterCalls 1).parse.1 = .ok filter) ∧
    ∀ later, 1 < later → ((start brokenGroup).afterCalls later).parse.1 =
      .error ⟨.unexpectedEnd .subject, 15⟩ := by
  have hfirst : (start brokenGroup).parse.1 = .error ⟨.unexpectedToken .operator .nil, 5⟩ := rfl
  have hsecond : ((start brokenGroup).afterCalls 1).parse.1 =
      .ok (.single (.clause (.complete (.literal .nil) .eq (.operand (.literal .nil))))) := rfl
  rcases parse_again brokenGroup.rest brokenGroup.stop 1 with ⟨hdepth, -, -, -, -, -, hend⟩
  exact ⟨hfirst, hdepth, ⟨_, hsecond⟩, hend _ hsecond⟩

end Session
end Query
end RecordFilter
