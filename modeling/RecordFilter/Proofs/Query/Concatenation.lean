import RecordFilter.Proofs.Query.Places

/-!
# Texts one behind the other

A text that is lexed to its end and a text behind it, with blanks in between, are lexed together as
each is lexed alone.  Only the positions in the second text move.
-/

namespace RecordFilter

namespace Query

/-- The token in a text that stands this far behind its old start. -/
def Token.shift (distance : Nat) (token : Token) : Token :=
  { token with position := token.position + distance }

end Query

def QueryError.shift (distance : Nat) (e : QueryError) : QueryError :=
  { e with position := e.position + distance }

namespace Query

open Text (isBlank)

namespace Lexes

variable {start : Nat} {text rest : List Char} {tokens tokens' : List Token}
variable {e? : Option QueryError}

/-- Lexing does not depend on the place where the text starts. -/
theorem shift (h : Lexes start text tokens e?) (distance : Nat) :
    Lexes (start + distance) text (tokens.map (Token.shift distance))
      (e?.map (QueryError.shift distance)) := by
  induction h with
  | done start =>
      exact .done (start + distance)
  | blank hc _ ih =>
      rw [Nat.add_right_comm] at ih
      exact .blank hc ih
  | token hc hread _ ih =>
      rw [Nat.add_right_comm] at ih
      exact .token hc hread ih
  | @fault start c text front left e hc hread hfront =>
      have hplace : QueryError.shift distance ⟨e.fault, start + front.length⟩ =
          ⟨e.fault, start + distance + front.length⟩ := by
        rw [QueryError.shift, Nat.add_right_comm]
      rw [List.map_nil, Option.map_some, hplace]
      exact .fault hc hread hfront

/-- What stands behind a delimiter has no part in the tokens in front of it. -/
theorem append {e'? : Option QueryError} (h : Lexes start text tokens e'?) (hend : e'? = none)
    (hseam : Seam rest) (hrest : Lexes (start + text.length) rest tokens' e?) :
    Lexes start (text ++ rest) (tokens ++ tokens') e? := by
  induction h with
  | done =>
      exact hrest
  | @blank start c text tokens e'? hc _ ih =>
      rw [List.length_cons, Nat.add_comm text.length, ← Nat.add_assoc] at hrest
      exact .blank hc (ih hend hrest)
  | @token start c front left kind tokens e'? hc hread _ ih =>
      rw [← List.cons_append, List.length_append, ← Nat.add_assoc] at hrest
      have hread' := readToken_append hseam hread
      rw [List.append_assoc] at hread'
      rw [List.cons_append, List.append_assoc]
      exact .token hc hread' (ih hend hrest)
  | fault =>
      cases hend

theorem blanks {blanks : List Char} (hblanks : ∀ c ∈ blanks, isBlank c = true)
    (h : Lexes (start + blanks.length) text tokens e?) : Lexes start (blanks ++ text) tokens e? := by
  induction blanks generalizing start with
  | nil =>
      exact h
  | cons c blanks ih =>
      rcases List.forall_mem_cons.mp hblanks with ⟨hc, hblanks⟩
      rw [List.length_cons, Nat.add_comm blanks.length, ← Nat.add_assoc] at h
      exact .blank hc (ih hblanks h)

/-- A text behind another, with at least one blank in between. -/
theorem behind {front blanks : List Char} {e'? : Option QueryError}
    (hfront : Lexes 0 front tokens none) (hne : blanks ≠ [])
    (hblanks : ∀ c ∈ blanks, isBlank c = true) (h : Lexes 0 text tokens' e'?) :
    Lexes 0 (front ++ blanks ++ text)
      (tokens ++ tokens'.map (Token.shift (front ++ blanks).length))
      (e'?.map (QueryError.shift (front ++ blanks).length)) := by
  have hmoved := h.shift (front ++ blanks).length
  have hseam : Seam (blanks ++ text) := by
    cases blanks with
    | nil =>
        cases hne rfl
    | cons c blanks =>
        exact seam_cons (isDelimiter_of_isBlank (hblanks c List.mem_cons_self)) (blanks ++ text)
  rw [List.length_append, ← Nat.add_assoc] at hmoved
  rw [List.length_append, List.append_assoc]
  exact hfront.append rfl hseam (hmoved.blanks hblanks)

end Lexes

/-- Blanks in between keep two texts apart, so each is lexed, or refused, as it is alone. -/
theorem tokenize_behind_blanks {front blanks : List Char} {tokens : List Token}
    (hfront : tokenize front = .ok tokens) (hne : blanks ≠ [])
    (hblanks : ∀ c ∈ blanks, isBlank c = true) (text : List Char) :
    (∀ tokens', tokenize text = .ok tokens' →
      tokenize (front ++ blanks ++ text) =
        .ok (tokens ++ tokens'.map (Token.shift (front ++ blanks).length))) ∧
    ∀ e, tokenize text = .error e →
      tokenize (front ++ blanks ++ text) = .error (e.shift (front ++ blanks).length) := by
  have hfront := tokenize_eq_ok_iff.mp hfront
  constructor
  · intro tokens' h
    exact tokenize_of_lexes (hfront.behind hne hblanks (tokenize_eq_ok_iff.mp h))
  · intro e h
    rcases tokenize_eq_error_iff.mp h with ⟨tokens', hlexes⟩
    exact tokenize_of_lexes (hfront.behind hne hblanks hlexes)

/-- The blank is no ASCII character, and the escape in the second text stops short. -/
theorem tokenize_string_behind_target :
    tokenize (['(', '/', 'a'] ++ ['\u3000'] ++ ['x', '"', '\\', 'u', 'b']) =
      .error ⟨.invalidEscape 'u', 6⟩ := by
  have hfront : tokenize ['(', '/', 'a'] = .ok [⟨.openGroup, 0⟩, ⟨.target ⟨["a"]⟩, 1⟩] := rfl
  have hblank : ∀ c ∈ ['\u3000'], isBlank c = true := List.forall_mem_singleton.mpr (by decide)
  have h : tokenize ['x', '"', '\\', 'u', 'b'] = .error ⟨.invalidEscape 'u', 2⟩ := rfl
  exact (tokenize_behind_blanks hfront (List.cons_ne_nil _ _) hblank _).2 _ h

end Query
end RecordFilter
