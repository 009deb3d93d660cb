import RecordFilter.Proofs.Query.Lexing

/-!
# Places in a text

Lexing is described once more, now with the places of the tokens and with what ends it: the end of
the text, or an error.  The description goes through the text from its front, so it can be moved
to another start and put behind other text.
-/

namespace RecordFilter
namespace Query

open Text (isBlank)

/-!
# What stands at a place
-/

/-- The text starts with a token of this kind. -/
def StartsWith (kind : TokenKind) (text : List Char) : Prop :=
  ∃ c rest left, text = c :: rest ∧ isBlank c = false ∧ readToken c rest = ⟨.ok kind, left⟩

/-- What a fault says about the text that stands at its place. -/
def Fault.PointsAt (text : List Char) : Fault → Prop
  | unexpectedToken _ found => StartsWith found text
  | unexpectedEnd _ => text = []
  | unknownOperator keyword => StartsWith (.word keyword) text ∧ keyword.toList <+: text
  | unterminatedGroup => text.head? = some '('
  | unterminatedArray => text.head? = some '['
  | unexpectedCharacter c => text.head? = some c
  | unterminatedString => text.head? = some '"'
  | invalidEscape c => ['\\', c] <+: text
  | invalidNumber number =>
      number.toList <+: text ∧ ∃ c ∈ number.toList.head?, c = '-' ∨ c.isDigit = true
  | invalidTarget raw _ => raw.toList <+: text ∧ raw.toList.head? = some '/'
  -- No text leads to it, since the builder takes every clause that can be read.
  | invalidClause _ => False
  | nestingTooDeep _ => text.head? = some '('

/-!
# Faults of the lexer

A reader names the place of its fault by the text from there on, which is an end of the text that
it was given.
-/

section Readers

variable {text left : List Char} {e : Misreading}

theorem readString_error (h : readString ('"' :: text) text = ⟨.error e, left⟩) :
    e.place <:+ '"' :: text ∧ e.fault.PointsAt e.place := by
  unfold readString at h
  cases hscan : Text.Quoted.scan text with
  | closed content behind =>
      rw [hscan] at h
      cases h
  | unclosed =>
      rw [hscan] at h
      cases h
      exact ⟨List.suffix_refl _, rfl⟩
  | badEscape escaped place behind =>
      rw [hscan] at h
      cases h
      rcases Text.Quoted.scan_badEscape hscan with ⟨hsuffix, hprefix⟩
      exact ⟨hsuffix.trans (List.suffix_cons '"' text), hprefix⟩

theorem readNumber_error {start run behind : List Char}
    (h : readNumber start run behind = ⟨.error e, left⟩) :
    e = ⟨.invalidNumber (String.ofList run), start⟩ := by
  unfold readNumber at h
  split at h
  · cases h
  · cases h
    rfl

theorem pointsAt_invalidNumber {c : Char} (hc : c = '-' ∨ c.isDigit = true)
    (run rest : List Char) :
    (Fault.invalidNumber (String.ofList (c :: run))).PointsAt (c :: (run ++ rest)) := by
  simp only [Fault.PointsAt, String.toList_ofList]
  exact ⟨List.prefix_append (c :: run) rest, c, rfl, hc⟩

theorem readSignedNumber_error (h : readSignedNumber ('-' :: text) text = ⟨.error e, left⟩) :
    e.place <:+ '-' :: text ∧ e.fault.PointsAt e.place := by
  rcases numberRun_cut false text with ⟨run, rest, rfl, hnumber, _⟩
  simp only [readSignedNumber, hnumber] at h
  rw [readNumber_error h]
  exact ⟨List.suffix_refl _, pointsAt_invalidNumber (.inl rfl) run rest⟩

theorem readUnsignedNumber_error {c : Char} (hc : c.isDigit = true)
    (h : readUnsignedNumber (c :: text) = ⟨.error e, left⟩) :
    e.place <:+ c :: text ∧ e.fault.PointsAt e.place := by
  have hpart : isNumberPart false c = true := isNumberPart_of_isDigit hc false
  rcases numberRun_cut (isExponentMark c) text with ⟨run, rest, rfl, hnumber, _⟩
  simp only [readUnsignedNumber, numberRun_cons hpart, hnumber] at h
  rw [readNumber_error h]
  exact ⟨List.suffix_refl _, pointsAt_invalidNumber (.inr hc) run rest⟩

theorem readTarget_error (h : readTarget ('/' :: text) = ⟨.error e, left⟩) :
    e.place <:+ '/' :: text ∧ e.fault.PointsAt e.place := by
  simp only [readTarget] at h
  split at h
  · cases h
  · cases h
    refine ⟨List.suffix_refl _, ?_⟩
    simp only [Fault.PointsAt, String.toList_ofList]
    refine ⟨List.takeWhile_prefix _, ?_⟩
    rw [takeWhile_slash]
    rfl

end Readers

theorem readToken_error {c : Char} {text left : List Char} {e : Misreading}
    (h : readToken c text = ⟨.error e, left⟩) :
    e.place <:+ c :: text ∧ e.fault.PointsAt e.place := by
  cases tokenStart c with
  | mark kind _ _ hread =>
      rw [hread] at h
      cases h
  | quote hc hread =>
      rw [hread] at h
      subst hc
      exact readString_error h
  | target hc hread =>
      rw [hread] at h
      subst hc
      exact readTarget_error h
  | sign hc hread =>
      rw [hread] at h
      subst hc
      exact readSignedNumber_error h
  | digit hc hread =>
      rw [hread] at h
      exact readUnsignedNumber_error hc h
  | word _ hread =>
      rw [hread] at h
      cases h
  | other hread =>
      rw [hread] at h
      cases h
      exact ⟨List.suffix_refl _, rfl⟩

/-!
# Kinds of tokens and the text

A mark is read where it stands; other tokens have a value or are made of a word.
-/

theorem mark?_of_operand? {kind : TokenKind} (h : kind.operand?.isSome = true) :
    kind.mark? = none := by
  cases kind <;> first | rfl | cases h

theorem ofWord_mark? (word : String) : (TokenKind.ofWord word).mark? = none := by
  unfold TokenKind.ofWord
  split_ifs
  all_goals try split
  all_goals rfl

theorem ofWord_eq_word {text word : String} (h : TokenKind.ofWord text = .word word) :
    text = word := by
  unfold TokenKind.ofWord at h
  split_ifs at h
  split at h
  · cases h
  · cases h
    rfl

theorem readNumber_kind {start run behind left : List Char} {kind : TokenKind}
    (h : readNumber start run behind = ⟨.ok kind, left⟩) : ∃ n, kind = .number n := by
  unfold readNumber at h
  split at h
  · next n _ =>
      cases h
      exact ⟨n, rfl⟩
  · cases h

theorem readToken_kind {c : Char} {text left : List Char} {kind : TokenKind}
    (h : readToken c text = ⟨.ok kind, left⟩) :
    kind.mark? = some c ∨ kind.operand?.isSome = true ∨
      ∃ word, word <+: c :: text ∧ kind = .ofWord (String.ofList word) := by
  cases tokenStart c with
  | mark kind' _ hmark hread =>
      rw [hread] at h
      cases h
      exact .inl hmark
  | quote _ hread =>
      rw [hread] at h
      unfold readString at h
      split at h <;> cases h
      exact .inr (.inl rfl)
  | target _ hread =>
      rw [hread] at h
      rcases readTarget_of_ok h with ⟨target, _, rfl, _⟩
      exact .inr (.inl rfl)
  | sign _ hread =>
      rw [hread] at h
      rcases readNumber_kind h with ⟨n, rfl⟩
      exact .inr (.inl rfl)
  | digit _ hread =>
      rw [hread] at h
      rcases readNumber_kind h with ⟨n, rfl⟩
      exact .inr (.inl rfl)
  | word _ hread =>
      rw [hread] at h
      cases h
      exact .inr (.inr ⟨_, List.takeWhile_prefix _, rfl⟩)
  | other hread =>
      rw [hread] at h
      cases h

/-- A mark in the tokens is a mark in the text. -/
theorem readToken_mark {c d : Char} {text left : List Char} {kind : TokenKind}
    (h : readToken c text = ⟨.ok kind, left⟩) (hmark : kind.mark? = some d) : c = d := by
  rcases readToken_kind h with hmark' | hvalue | ⟨word, _, rfl⟩
  · rw [hmark] at hmark'
    exact (Option.some.inj hmark').symm
  · rw [mark?_of_operand? hvalue] at hmark
    cases hmark
  · rw [ofWord_mark?] at hmark
    cases hmark

/-- A word that is no keyword is kept as it stands. -/
theorem readToken_word {c : Char} {text left : List Char} {word : String}
    (h : readToken c text = ⟨.ok (.word word), left⟩) : word.toList <+: c :: text := by
  rcases readToken_kind h with hmark | hvalue | ⟨word', hprefix, hkind⟩
  · cases hmark
  · cases hvalue
  · rw [← ofWord_eq_word hkind.symm, String.toList_ofList]
    exact hprefix

/-!
# Steps of the lexer
-/

section Lexer

variable {size : Nat} {text left : List Char} {c : Char}

theorem next_of_cons {kind : TokenKind} (h : text.dropWhile isBlank = c :: left) {rest : List Char}
    (hread : readToken c left = ⟨.ok kind, rest⟩) :
    (Lexer.mk size text).next =
      (.ok (some ⟨kind, (Lexer.mk size text).positionOf (c :: left)⟩), ⟨size, rest⟩) := by
  simp only [Lexer.next, h, hread]

theorem next_of_error {e : Misreading} (h : text.dropWhile isBlank = c :: left) {rest : List Char}
    (hread : readToken c left = ⟨.error e, rest⟩) :
    (Lexer.mk size text).next =
      (.error ⟨e.fault, (Lexer.mk size text).positionOf e.place⟩, ⟨size, rest⟩) := by
  simp only [Lexer.next, h, hread]

end Lexer

theorem tokensWithin_blank {c : Char} (hc : isBlank c = true) (text : List Char)
    (rounds size : Nat) :
    Lexer.tokensWithin rounds ⟨size, c :: text⟩ = Lexer.tokensWithin rounds ⟨size, text⟩ := by
  cases rounds with
  | zero =>
      rfl
  | succ rounds =>
      have hnext : (Lexer.mk size (c :: text)).next = (Lexer.mk size text).next := by
        simp only [Lexer.next, List.dropWhile_cons_of_pos hc]
        rfl
      rw [Lexer.tokensWithin, Lexer.tokensWithin, hnext]

/-!
# Lexing with places

A text that starts at a given place is lexed to tokens, and behind them there may be an error.
-/

inductive Lexes : Nat → List Char → List Token → Option QueryError → Prop where
  | done (start : Nat) : Lexes start [] [] none
  | blank {start : Nat} {c : Char} {text : List Char} {tokens : List Token}
      {e? : Option QueryError} :
      isBlank c = true → Lexes (start + 1) text tokens e? → Lexes start (c :: text) tokens e?
  | token {start : Nat} {c : Char} {front left : List Char} {kind : TokenKind}
      {tokens : List Token} {e? : Option QueryError} :
      isBlank c = false → readToken c (front ++ left) = ⟨.ok kind, left⟩ →
      Lexes (start + (c :: front).length) left tokens e? →
      Lexes start (c :: (front ++ left)) (⟨kind, start⟩ :: tokens) e?
  | fault {start : Nat} {c : Char} {text front left : List Char} {e : Misreading} :
      isBlank c = false → readToken c text = ⟨.error e, left⟩ → front ++ e.place = c :: text →
      Lexes start (c :: text) [] (some ⟨e.fault, start + front.length⟩)

/-- By induction on the length of the text, which every token makes shorter. -/
theorem exists_lexes (start : Nat) (text : List Char) : ∃ tokens e?, Lexes start text tokens e? := by
  induction hlength : text.length using Nat.strongRecOn generalizing start text with
  | ind length ih =>
      cases text with
      | nil =>
          exact ⟨[], none, .done start⟩
      | cons c text =>
          rw [List.length_cons] at hlength
          cases hblank : isBlank c with
          | true =>
              rcases ih text.length (by omega) (start + 1) text rfl with ⟨tokens, e?, hlexes⟩
              exact ⟨tokens, e?, .blank hblank hlexes⟩
          | false =>
              rcases hread : readToken c text with ⟨outcome, left⟩
              cases outcome with
              | error e =>
                  rcases (readToken_error hread).1 with ⟨front, hfront⟩
                  exact ⟨[], _, .fault hblank hread hfront⟩
              | ok kind =>
                  rcases readToken_suffix hread with ⟨front, rfl⟩
                  have hshorter : left.length < length := by
                    rw [← hlength, List.length_append]
                    omega
                  rcases ih left.length hshorter (start + (c :: front).length) left rfl with
                    ⟨tokens, e?, hlexes⟩
                  exact ⟨_, e?, .token hblank hread hlexes⟩

/-- What a lexer returns when it comes to this end. -/
def outcome (tokens : List Token) : Option QueryError → Except QueryError (List Token)
  | none => .ok tokens
  | some e => .error e

theorem tokensWithin_of_lexes {start : Nat} {text : List Char} {tokens : List Token}
    {e? : Option QueryError} (h : Lexes start text tokens e?) {rounds size : Nat}
    (hrounds : text.length < rounds) (hsize : size = start + text.length) :
    Lexer.tokensWithin rounds ⟨size, text⟩ = outcome tokens e? := by
  induction h generalizing rounds with
  | done start =>
      cases rounds with
      | zero =>
          cases hrounds
      | succ rounds =>
          rfl
  | blank hc _ ih =>
      rw [List.length_cons] at hrounds hsize
      rw [tokensWithin_blank hc]
      exact ih (by omega) (by omega)
  | @token start c front left kind tokens e? hc hread _ ih =>
      have hdrop : (c :: (front ++ left)).dropWhile isBlank = c :: (front ++ left) :=
        List.dropWhile_cons_of_neg (by simp [hc])
      simp only [List.length_cons, List.length_append] at hrounds hsize ih
      cases rounds with
      | zero =>
          cases hrounds
      | succ rounds =>
          have hplace : (Lexer.mk size (c :: (front ++ left))).positionOf (c :: (front ++ left)) =
              start := by
            simp only [Lexer.positionOf, List.length_cons, List.length_append]
            omega
          rw [Lexer.tokensWithin, next_of_cons hdrop hread, hplace]
          simp only
          rw [ih (by omega) (by omega)]
          cases e? <;> rfl
  | @fault start c text front left e hc hread hfront =>
      have hdrop : (c :: text).dropWhile isBlank = c :: text :=
        List.dropWhile_cons_of_neg (by simp [hc])
      cases rounds with
      | zero =>
          cases hrounds
      | succ rounds =>
          have hplace : (Lexer.mk size (c :: text)).positionOf e.place = start + front.length := by
            rw [← hfront, List.length_append] at hsize
            simp only [Lexer.positionOf]
            omega
          rw [Lexer.tokensWithin, next_of_error hdrop hread, hplace]
          rfl

theorem tokenize_of_lexes {text : List Char} {tokens : List Token} {e? : Option QueryError}
    (h : Lexes 0 text tokens e?) : tokenize text = outcome tokens e? :=
  tokensWithin_of_lexes h (Nat.lt_succ_self text.length) (Nat.zero_add text.length).symm

theorem tokenize_eq_ok_iff {text : List Char} {tokens : List Token} :
    tokenize text = .ok tokens ↔ Lexes 0 text tokens none := by
  constructor
  · intro h
    rcases exists_lexes 0 text with ⟨tokens', e?, hlexes⟩
    rw [tokenize_of_lexes hlexes] at h
    cases e? <;> cases h
    exact hlexes
  · exact tokenize_of_lexes

theorem tokenize_eq_error_iff {text : List Char} {e : QueryError} :
    tokenize text = .error e ↔ ∃ tokens, Lexes 0 text tokens (some e) := by
  constructor
  · intro h
    rcases exists_lexes 0 text with ⟨tokens, e?, hlexes⟩
    rw [tokenize_of_lexes hlexes] at h
    cases e? <;> cases h
    exact ⟨tokens, hlexes⟩
  · rintro ⟨tokens, h⟩
    exact tokenize_of_lexes h

end Query
end RecordFilter
