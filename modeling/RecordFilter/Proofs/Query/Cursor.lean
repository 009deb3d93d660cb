import Mathlib.Order.Monotone.Basic
import RecordFilter.Proofs.Query.StringLiterals

/-!
# The cursor of a lexer

A lexer can be called any number of times, and goes on after an error wherever its reader has left
it.  One call takes up a stretch of the text, so the cursor stays in the text and never moves back,
and what the call returns is about that stretch or about text behind it.  A run of calls keeps this,
and returns no more tokens than there are characters.
-/

namespace RecordFilter
namespace Query

open Text (isBlank)

/-!
# Where readers stop
-/

section Readers

variable {text left : List Char} {e : Misreading}

theorem rest_readString (start text : List Char) :
    (readString start text).rest = (Text.Quoted.scan text).left := by
  unfold readString
  cases Text.Quoted.scan text <;> rfl

theorem rest_readNumber (start run behind : List Char) :
    (readNumber start run behind).rest = behind := by
  unfold readNumber
  split <;> rfl

theorem rest_readSignedNumber_suffix (start text : List Char) :
    (readSignedNumber start text).rest <:+ text := by
  rcases numberRun_cut false text with ⟨run, rest, rfl, hnumber, _⟩
  simp only [readSignedNumber, hnumber, rest_readNumber]
  exact List.suffix_append run rest

theorem rest_readUnsignedNumber_suffix (text : List Char) :
    (readUnsignedNumber text).rest <:+ text := by
  rcases numberRun_cut false text with ⟨run, rest, htext, hnumber, _⟩
  simp only [readUnsignedNumber, hnumber, rest_readNumber]
  rw [htext]
  exact List.suffix_append run rest

theorem rest_readTarget (text : List Char) :
    (readTarget text).rest = text.dropWhile fun c => !isDelimiter c := by
  unfold readTarget
  simp only
  split <;> rfl

/-- A reader that fails has gone on in its text as well, or stays where it is. -/
theorem rest_readToken_suffix (c : Char) (text : List Char) :
    (readToken c text).rest <:+ c :: text := by
  cases tokenStart c with
  | mark kind _ _ hread =>
      rw [hread]
      exact List.suffix_cons c text
  | quote _ hread =>
      rw [hread, rest_readString]
      exact (Text.Quoted.scan_left_suffix text).trans (List.suffix_cons c text)
  | target _ hread =>
      rw [hread, rest_readTarget]
      exact List.dropWhile_suffix _
  | sign _ hread =>
      rw [hread]
      exact (rest_readSignedNumber_suffix _ text).trans (List.suffix_cons c text)
  | digit _ hread =>
      rw [hread]
      exact rest_readUnsignedNumber_suffix (c :: text)
  | word _ hread =>
      rw [hread]
      exact List.dropWhile_suffix _
  | other hread =>
      exact ⟨[], congrArg Reading.rest (hread text)⟩

theorem place_readTarget (h : readTarget text = ⟨.error e, left⟩) : e.place = text := by
  simp only [readTarget] at h
  split at h
  · cases h
  · cases h
    rfl

theorem place_readString_ne_nil {c : Char} (h : readString (c :: text) text = ⟨.error e, left⟩) :
    e.place ≠ [] := by
  unfold readString at h
  cases hscan : Text.Quoted.scan text with
  | closed content behind =>
      rw [hscan] at h
      cases h
  | unclosed =>
      rw [hscan] at h
      cases h
      exact List.cons_ne_nil c text
  | badEscape escaped place behind =>
      rw [hscan] at h
      cases h
      have hprefix := (Text.Quoted.scan_badEscape hscan).2
      exact List.ne_nil_of_length_pos (Nat.lt_of_lt_of_le Nat.two_pos hprefix.length_le)

/-- A fault is named where the token starts, or at a backslash, so some text is left there. -/
theorem place_readToken_ne_nil {c : Char} (h : readToken c text = ⟨.error e, left⟩) :
    e.place ≠ [] := by
  cases tokenStart c with
  | mark kind _ _ hread =>
      rw [hread] at h
      cases h
  | quote _ hread =>
      rw [hread] at h
      exact place_readString_ne_nil h
  | target _ hread =>
      rw [hread] at h
      rw [place_readTarget h]
      exact List.cons_ne_nil c text
  | sign _ hread =>
      rw [hread] at h
      rw [readNumber_error h]
      exact List.cons_ne_nil c text
  | digit _ hread =>
      rw [hread] at h
      rw [readNumber_error h]
      exact List.cons_ne_nil c text
  | word _ hread =>
      rw [hread] at h
      cases h
  | other hread =>
      rw [hread] at h
      cases h
      exact List.cons_ne_nil c text

end Readers

namespace Lexer

/-!
# One call
-/

abbrev Answer := Except QueryError (Option Token)

/--
What a call may return that moves the cursor of a text of a given size from one place to another: a
token between the two, the end if the cursor has come to it, or an error somewhere in the text that
was left.
-/
inductive FitsMove (size start stop : Nat) : Answer → Prop where
  | token {token : Token} : start ≤ token.position → token.position < stop →
      FitsMove size start stop (.ok (some token))
  | done : stop = size → FitsMove size start stop (.ok none)
  | error {e : QueryError} : start ≤ e.position → e.position < size →
      FitsMove size start stop (.error e)

theorem position_behind (front left : List Char) : (behind front left).position = front.length :=
  positionOf_behind front [] left

/-- A lexer that goes on behind a stretch of the text has read that stretch. -/
theorem behind_move (front taken left : List Char) :
    { behind front (taken ++ left) with rest := left } = behind (front ++ taken) left := by
  simp only [behind, List.append_assoc]

/-- The places of the text that a lexer has left are in front of its end. -/
theorem positionOf_suffix (front : List Char) {left place : List Char} (h : place <:+ left) :
    front.length ≤ (behind front left).positionOf place ∧
      (behind front left).positionOf place + place.length = (front ++ left).length := by
  rcases h with ⟨gap, rfl⟩
  rw [positionOf_behind, List.length_append, List.length_append, Nat.add_assoc]
  exact ⟨Nat.le_add_right _ _, rfl⟩

section Call

variable {front taken text left rest : List Char} {c : Char}

theorem suffix_of_dropWhile (h : left.dropWhile isBlank = c :: text) : c :: text <:+ left := by
  rw [← h]
  exact List.dropWhile_suffix isBlank

theorem fitsMove_of_ok {kind : TokenKind} (hdrop : left.dropWhile isBlank = c :: text)
    (hread : readToken c text = ⟨.ok kind, rest⟩) (htaken : taken ++ rest = left) :
    FitsMove (front ++ left).length front.length (front ++ taken).length
      (behind front left).next.1 := by
  have hnext : (behind front left).next.1 = _ := congrArg Prod.fst (next_of_cons hdrop hread)
  have hposition := positionOf_suffix front (suffix_of_dropWhile hdrop)
  have hrest := (readToken_suffix hread).length_le
  rw [hnext]
  refine .token hposition.1 ?_
  show (behind front left).positionOf (c :: text) < _
  rw [← htaken] at hposition ⊢
  simp only [List.length_append, List.length_cons] at hposition ⊢
  omega

theorem fitsMove_of_error {e : Misreading} (hdrop : left.dropWhile isBlank = c :: text)
    (hread : readToken c text = ⟨.error e, rest⟩) (stop : Nat) :
    FitsMove (front ++ left).length front.length stop (behind front left).next.1 := by
  have hnext : (behind front left).next.1 = _ := congrArg Prod.fst (next_of_error hdrop hread)
  have hsuffix := (readToken_error hread).1.trans (suffix_of_dropWhile hdrop)
  have hposition := positionOf_suffix front hsuffix
  have hplace := List.length_pos_iff.mpr (place_readToken_ne_nil hread)
  rw [hnext]
  refine .error hposition.1 ?_
  show (behind front left).positionOf e.place < _
  omega

end Call

/-- A call takes up a stretch of the text that is left, and returns what fits this move. -/
theorem exists_next_behind (front left : List Char) :
    ∃ taken left', taken ++ left' = left ∧
      (behind front left).next.2 = behind (front ++ taken) left' ∧
      FitsMove (front ++ left).length front.length (front ++ taken).length
        (behind front left).next.1 := by
  cases hdrop : left.dropWhile isBlank with
  | nil =>
      have hnext : (behind front left).next = (.ok none, behind (front ++ left) []) := by
        simp only [Lexer.next, behind, hdrop, List.append_nil]
      rw [hnext]
      exact ⟨left, [], List.append_nil left, rfl, .done rfl⟩
  | cons c text =>
      rcases hread : readToken c text with ⟨outcome, rest⟩
      have hrest := rest_readToken_suffix c text
      rw [hread] at hrest
      rcases hrest.trans (suffix_of_dropWhile hdrop) with ⟨taken, htaken⟩
      cases outcome with
      | ok kind =>
          have hnext : (behind front left).next.2 = _ :=
            congrArg Prod.snd (next_of_cons hdrop hread)
          refine ⟨taken, rest, htaken, ?_, fitsMove_of_ok hdrop hread htaken⟩
          rw [hnext, ← behind_move, htaken]
          rfl
      | error e =>
          have hnext : (behind front left).next.2 = _ :=
            congrArg Prod.snd (next_of_error hdrop hread)
          refine ⟨taken, rest, htaken, ?_, fitsMove_of_error hdrop hread _⟩
          rw [hnext, ← behind_move, htaken]
          rfl

/-!
# Runs of calls
-/

/-- The lexer behind so many calls, whatever they have returned. -/
def afterCalls (lexer : Lexer) (calls : Nat) : Lexer :=
  (fun lexer => lexer.next.2)^[calls] lexer

/-- What the first calls return. -/
def answers (lexer : Lexer) (calls : Nat) : List Answer :=
  (List.range calls).map fun call => (lexer.afterCalls call).next.1

def tokensIn (answers : List Answer) : List Token :=
  answers.filterMap fun answer => answer.toOption.join

theorem afterCalls_succ (lexer : Lexer) (calls : Nat) :
    lexer.afterCalls (calls + 1) = (lexer.afterCalls calls).next.2 :=
  Function.iterate_succ_apply' _ calls lexer

theorem answers_succ (lexer : Lexer) (calls : Nat) :
    lexer.answers (calls + 1) = lexer.answers calls ++ [(lexer.afterCalls calls).next.1] := by
  rw [answers, List.range_succ, List.map_append]
  rfl

/-- The first call of a run, and the run of the lexer that it leaves. -/
theorem answers_next (lexer : Lexer) (calls : Nat) :
    lexer.answers (calls + 1) = lexer.next.1 :: lexer.next.2.answers calls := by
  rw [answers, List.range_succ_eq_map, List.map_cons, List.map_map]
  rfl

section Runs

variable (text : List Char) (calls : Nat)

theorem exists_afterCalls :
    ∃ front left, front ++ left = text ∧ (ofText text).afterCalls calls = behind front left := by
  induction calls with
  | zero =>
      exact ⟨[], text, rfl, rfl⟩
  | succ calls ih =>
      rcases ih with ⟨front, left, rfl, hlexer⟩
      rcases exists_next_behind front left with ⟨taken, left', rfl, hnext, -⟩
      refine ⟨front ++ taken, left', List.append_assoc _ _ _, ?_⟩
      rw [afterCalls_succ, hlexer, hnext]

theorem fitsMove_afterCalls :
    FitsMove text.length ((ofText text).afterCalls calls).position
      ((ofText text).afterCalls (calls + 1)).position ((ofText text).afterCalls calls).next.1 := by
  rcases exists_afterCalls text calls with ⟨front, left, rfl, hlexer⟩
  rcases exists_next_behind front left with ⟨taken, left', -, hnext, hfits⟩
  rw [afterCalls_succ, hlexer, hnext, position_behind, position_behind]
  exact hfits

theorem position_le_succ :
    ((ofText text).afterCalls calls).position ≤ ((ofText text).afterCalls (calls + 1)).position := by
  rcases exists_afterCalls text calls with ⟨front, left, rfl, hlexer⟩
  rcases exists_next_behind front left with ⟨taken, left', -, hnext, -⟩
  rw [afterCalls_succ, hlexer, hnext, position_behind, position_behind, List.length_append]
  exact Nat.le_add_right _ _

theorem position_le_length : ((ofText text).afterCalls calls).position ≤ text.length := by
  rcases exists_afterCalls text calls with ⟨front, left, rfl, hlexer⟩
  rw [hlexer, position_behind, List.length_append]
  exact Nat.le_add_right _ _

/-- Every token takes the cursor one character further at least, and nothing takes it back. -/
theorem length_tokensIn_le :
    (tokensIn ((ofText text).answers calls)).length ≤
      ((ofText text).afterCalls calls).position := by
  induction calls with
  | zero =>
      exact Nat.zero_le _
  | succ calls ih =>
      have hmove := position_le_succ text calls
      have hfits := fitsMove_afterCalls text calls
      rw [answers_succ, tokensIn, List.filterMap_append, List.length_append]
      rw [tokensIn] at ih
      cases hanswer : ((ofText text).afterCalls calls).next.1 with
      | error e =>
          exact ih.trans hmove
      | ok token? =>
          cases token? with
          | none =>
              exact ih.trans hmove
          | some token =>
              rw [hanswer] at hfits
              cases hfits with
              | token hstart hstop =>
                  exact Nat.succ_le_of_lt ((ih.trans hstart).trans_lt hstop)

variable {text calls}

theorem next_behind_nil (text : List Char) : (behind text []).next = (.ok none, behind text []) :=
  rfl

theorem afterCalls_of_done (h : ((ofText text).afterCalls calls).next.1 = .ok none) (more : Nat) :
    (ofText text).afterCalls (calls + 1 + more) = behind text [] := by
  induction more with
  | zero =>
      rcases exists_afterCalls text calls with ⟨front, left, rfl, hlexer⟩
      rcases exists_next_behind front left with ⟨taken, left', rfl, hnext, hfits⟩
      rw [hlexer] at h
      rw [h] at hfits
      rw [Nat.add_zero, afterCalls_succ, hlexer, hnext]
      cases hfits with
      | done hend =>
          have hleft : left' = [] := by
            apply List.eq_nil_of_length_eq_zero
            simp only [List.length_append] at hend
            omega
          rw [hleft, List.append_nil]
  | succ more ih =>
      rw [← Nat.add_assoc, afterCalls_succ, ih, next_behind_nil]

/-- Once the end has been returned, nothing else is. -/
theorem next_of_done (h : ((ofText text).afterCalls calls).next.1 = .ok none) {later : Nat}
    (hlater : calls ≤ later) : ((ofText text).afterCalls later).next.1 = .ok none := by
  rcases hlater.eq_or_lt with rfl | hlater
  · exact h
  · rcases Nat.exists_eq_add_of_le (Nat.succ_le_of_lt hlater) with ⟨more, rfl⟩
    rw [afterCalls_of_done h more, next_behind_nil]

end Runs

/-!
# Lexing as a run of calls

A text is lexed by calls up to the first that returns no token.  The rounds that are counted are
never used up.
-/

/-- What the call returns with which lexing ends. -/
def lastAnswer : Option QueryError → Answer
  | none => .ok none
  | some e => .error e

theorem exists_answers (front : List Char) {left : List Char} {rounds : Nat}
    (hrounds : left.length < rounds) :
    ∃ tokens e?, (behind front left).answers (tokens.length + 1) =
        tokens.map (fun token => .ok (some token)) ++ [lastAnswer e?] ∧
      tokensWithin rounds (behind front left) = outcome tokens e? := by
  induction rounds generalizing front left with
  | zero =>
      cases hrounds
  | succ rounds ih =>
      rcases exists_next_behind front left with ⟨taken, left', rfl, hafter, hfits⟩
      rcases hnext : (behind front (taken ++ left')).next with ⟨answer, lexer⟩
      rw [hnext] at hafter hfits
      have hlexer : lexer = behind (front ++ taken) left' := hafter
      rw [hlexer] at hnext
      cases hfits with
      | @token token hstart hstop =>
          have hleft : left'.length < rounds := by
            simp only [List.length_append] at hrounds hstop
            omega
          rcases ih (front ++ taken) hleft with ⟨tokens, e?, hanswers, htokens⟩
          refine ⟨token :: tokens, e?, ?_, ?_⟩
          · rw [List.length_cons, answers_next, hnext, hanswers]
            rfl
          · simp only [tokensWithin, hnext, htokens]
            cases e? <;> rfl
      | done _ =>
          refine ⟨[], none, ?_, ?_⟩
          · rw [List.length_nil, answers_next, hnext]
            rfl
          · simp only [tokensWithin, hnext]
            rfl
      | @error e _ _ =>
          refine ⟨[], some e, ?_, ?_⟩
          · rw [List.length_nil, answers_next, hnext]
            rfl
          · simp only [tokensWithin, hnext]
            rfl

theorem tokensIn_answers (tokens : List Token) (e? : Option QueryError) :
    tokensIn (tokens.map (fun token => .ok (some token)) ++ [lastAnswer e?]) = tokens := by
  induction tokens with
  | nil =>
      cases e? <;> rfl
  | cons token tokens ih =>
      exact congrArg (token :: ·) ih

/--
Whatever the calls return, the lexer has left what stands behind its cursor, which stays in the text
and never moves back.  Each call returns what fits its move, and after the end nothing but the end.
No run returns more tokens than there are characters, and the text is lexed by one run of calls, up
to the first that returns no token.
-/
theorem calls_keep_to_text (text : List Char) :
    let lexer := ofText text
    (∀ calls, (lexer.afterCalls calls).position ≤ text.length ∧
      (lexer.afterCalls calls).rest = text.drop (lexer.afterCalls calls).position) ∧
    (Monotone fun calls => (lexer.afterCalls calls).position) ∧
    (∀ calls, FitsMove text.length (lexer.afterCalls calls).position
      (lexer.afterCalls (calls + 1)).position (lexer.afterCalls calls).next.1) ∧
    (∀ calls later, calls ≤ later → (lexer.afterCalls calls).next.1 = .ok none →
      (lexer.afterCalls later).next.1 = .ok none) ∧
    (∀ calls, (tokensIn (lexer.answers calls)).length ≤ text.length) ∧
    ∃ tokens e?, tokens.length ≤ text.length ∧
      lexer.answers (tokens.length + 1) =
        tokens.map (fun token => .ok (some token)) ++ [lastAnswer e?] ∧
      tokenize text = outcome tokens e? := by
  intro lexer
  have hcount : ∀ calls, (tokensIn (lexer.answers calls)).length ≤ text.length := fun calls =>
    (length_tokensIn_le text calls).trans (position_le_length text calls)
  refine ⟨fun calls => ⟨position_le_length text calls, ?_⟩,
    monotone_nat_of_le_succ (position_le_succ text), fitsMove_afterCalls text,
    fun calls later hlater h => next_of_done h hlater, hcount, ?_⟩
  · rcases exists_afterCalls text calls with ⟨front, left, rfl, hlexer⟩
    rw [hlexer, position_behind, List.drop_left]
    rfl
  · rcases exists_answers [] (Nat.lt_succ_self text.length) with ⟨tokens, e?, hanswers, htokens⟩
    refine ⟨tokens, e?, ?_, hanswers, htokens⟩
    have hlength := hcount (tokens.length + 1)
    rw [← tokensIn_answers tokens e?, ← hanswers]
    exact hlength

/-- A bad escape is left behind, but a character that starts no token is never passed. -/
example : (ofText ['"', '\\', 'q', ' ', '#']).answers 4 =
    [.error ⟨.invalidEscape 'q', 1⟩, .ok (some ⟨.word "q", 2⟩),
      .error ⟨.unexpectedCharacter '#', 4⟩, .error ⟨.unexpectedCharacter '#', 4⟩] := by
  rfl

end Lexer

end Query
end RecordFilter
