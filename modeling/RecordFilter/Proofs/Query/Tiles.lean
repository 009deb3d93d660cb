import Mathlib.Data.List.DropRight
import RecordFilter.Proofs.Query.Places

/-!
# Tokens tile the text

A text that is lexed to its end is cut into pieces, one for each token, with the blanks behind a
token as a part of its piece.  The pieces are found in two ways: from the positions of the tokens,
which is how the statement has them, and from the run of the lexer.
-/

namespace RecordFilter
namespace Query

open Text (isBlank)

/-!
# Spans of a text
-/

/-- A token and the part of the text that it takes up. -/
structure Span where
  token : Token
  text : List Char

namespace Span

def position (span : Span) : Nat :=
  span.token.position

def Holds (span : Span) (place : Nat) : Prop :=
  span.position ≤ place ∧ place < span.position + span.text.length

end Span

/-- Where a token has to end, by the tokens that come behind it. -/
def limit (text : List Char) (behind : List Token) : Nat :=
  (behind.head?.map Token.position).getD text.length

/-- Each token with the text from its position to its limit, without the blanks at the end. -/
def spans (text : List Char) : List Token → List Span
  | [] => []
  | token :: behind =>
      ⟨token, (text.extract token.position (limit text behind)).rdropWhile isBlank⟩ ::
        spans text behind

/-!
# Pieces of a text
-/

theorem rdropWhile_append_of_forall {p : Char → Bool} {back : List Char}
    (h : ∀ c ∈ back, p c = true) (front : List Char) :
    (front ++ back).rdropWhile p = front.rdropWhile p := by
  induction back using List.reverseRecOn with
  | nil =>
      rw [List.append_nil]
  | append_singleton back c ih =>
      rcases List.forall_mem_append.mp h with ⟨hback, hc⟩
      rw [← List.append_assoc, List.rdropWhile_concat_pos p _ c (hc c (List.mem_singleton_self c))]
      exact ih hback

/-- The text of one token, which is read alone as that token, and the blanks behind it. -/
structure Tile where
  kind : TokenKind
  first : Char
  inner : List Char
  gap : List Char
  first_not_blank : isBlank first = false
  last_not_blank : ∀ c ∈ inner.getLast?, isBlank c = false
  read : readToken first inner = ⟨.ok kind, []⟩
  gap_blank : ∀ c ∈ gap, isBlank c = true

namespace Tile

variable (tile : Tile) (tiles : List Tile)

def word : List Char :=
  tile.first :: tile.inner

def text : List Char :=
  tile.word ++ tile.gap

theorem word_length_pos : 0 < tile.word.length :=
  Nat.succ_pos tile.inner.length

theorem text_length : tile.text.length = tile.word.length + tile.gap.length :=
  List.length_append

theorem last_of_word : ∀ c ∈ tile.word.getLast?, isBlank c = false := by
  intro c hc
  rw [word, List.getLast?_cons] at hc
  cases hlast : tile.inner.getLast? with
  | none =>
      rw [hlast] at hc
      cases hc
      exact tile.first_not_blank
  | some last =>
      rw [hlast] at hc
      cases hc
      exact tile.last_not_blank last hlast

theorem tokenize_word : tokenize tile.word = .ok [⟨tile.kind, 0⟩] := by
  have hread := tile.read
  rw [← List.append_nil tile.inner] at hread
  have hlexes : Lexes 0 (tile.first :: (tile.inner ++ [])) [⟨tile.kind, 0⟩] none :=
    .token tile.first_not_blank hread (.done _)
  rw [List.append_nil] at hlexes
  exact tokenize_eq_ok_iff.mpr hlexes

/-- The blanks behind a token are what trimming takes off. -/
theorem trim_text : tile.text.rdropWhile isBlank = tile.word := by
  have hword : tile.word.rdropWhile isBlank = tile.word := by
    apply List.rdropWhile_eq_self_iff.mpr
    intro hne hlast
    rw [tile.last_of_word _ (List.getLast?_eq_some_getLast hne)] at hlast
    cases hlast
  rw [text, rdropWhile_append_of_forall tile.gap_blank, hword]

/-- The spans of tiles that are laid one behind the other, from a place on. -/
def placed : Nat → List Tile → List Span
  | _, [] => []
  | start, tile :: tiles =>
      ⟨⟨tile.kind, start⟩, tile.word⟩ :: placed (start + tile.text.length) tiles

def textOf : List Char :=
  tiles.flatMap text

theorem textOf_cons : textOf (tile :: tiles) = tile.text ++ textOf tiles :=
  List.flatMap_cons

variable {tile tiles} {start : Nat}

theorem of_mem_placed {span : Span} (h : span ∈ placed start tiles) :
    (start ≤ span.position ∧ span.position < start + (textOf tiles).length) ∧
      ∃ tile ∈ tiles, span.token.kind = tile.kind ∧ span.text = tile.word := by
  induction tiles generalizing start with
  | nil =>
      cases h
  | cons tile tiles ih =>
      have hpos := tile.word_length_pos
      have hlength := tile.text_length
      rw [textOf_cons, List.length_append]
      rcases List.mem_cons.mp h with rfl | h
      · refine ⟨⟨Nat.le_refl start, ?_⟩, tile, List.mem_cons_self, rfl, rfl⟩
        simp only [Span.position]
        omega
      · rcases ih h with ⟨⟨hlow, hhigh⟩, tile', hmem, hspan⟩
        exact ⟨⟨by omega, by omega⟩, tile', List.mem_cons_of_mem tile hmem, hspan⟩

theorem placed_pairwise (start : Nat) (tiles : List Tile) :
    (placed start tiles).Pairwise fun span later => span.position < later.position := by
  induction tiles generalizing start with
  | nil =>
      exact .nil
  | cons tile tiles ih =>
      refine .cons ?_ (ih (start + tile.text.length))
      intro later hlater
      have hpos := tile.word_length_pos
      have hlength := tile.text_length
      have hlow := (of_mem_placed hlater).1.1
      simp only [Span.position] at hlow ⊢
      omega

/-- A place in the text of the tiles is in a word or in the gap behind it. -/
theorem exists_placed_holds {place : Nat} {c : Char} (h : (textOf tiles)[place]? = some c)
    (hc : isBlank c = false) (start : Nat) :
    ∃ span ∈ placed start tiles, span.Holds (start + place) := by
  induction tiles generalizing start place with
  | nil =>
      cases h
  | cons tile tiles ih =>
      have hlength := tile.text_length
      rw [textOf_cons] at h
      by_cases hword : place < tile.word.length
      · refine ⟨_, List.mem_cons_self, ?_⟩
        simp only [Span.Holds, Span.position]
        omega
      by_cases hgap : place < tile.text.length
      · rw [List.getElem?_append_left hgap, text,
          List.getElem?_append_right (Nat.le_of_not_lt hword)] at h
        rw [tile.gap_blank c (List.mem_of_getElem? h)] at hc
        cases hc
      · rw [List.getElem?_append_right (Nat.le_of_not_lt hgap)] at h
        rcases ih h (start + tile.text.length) with ⟨span, hmem, hholds⟩
        refine ⟨span, List.mem_cons_of_mem _ hmem, ?_⟩
        have hplace : start + tile.text.length + (place - tile.text.length) = start + place := by
          omega
        rw [← hplace]
        exact hholds

theorem limit_placed (front : List Char) (tiles : List Tile) :
    limit (front ++ textOf tiles) ((placed front.length tiles).map Span.token) = front.length := by
  cases tiles with
  | nil =>
      rw [textOf, List.flatMap_nil, List.append_nil]
      rfl
  | cons tile tiles =>
      rfl

/-- The positions of the tokens lead to the tiles that they were taken from. -/
theorem spans_placed (front : List Char) (tiles : List Tile) :
    spans (front ++ textOf tiles) ((placed front.length tiles).map Span.token) =
      placed front.length tiles := by
  induction tiles generalizing front with
  | nil =>
      rfl
  | cons tile tiles ih =>
      have hspans := ih (front ++ tile.text)
      have hlimit := limit_placed (front ++ tile.text) tiles
      rw [List.append_assoc, ← textOf_cons, List.length_append] at hspans hlimit
      have htext : (front ++ textOf (tile :: tiles)).extract front.length
          (front.length + tile.text.length) = tile.text := by
        rw [textOf_cons, List.extract_eq_take_drop, List.drop_left, Nat.add_sub_cancel_left,
          List.take_left]
      simp only [placed, List.map_cons, spans, hlimit, htext, trim_text, hspans]

end Tile

/-- The blanks behind a token, and before the next, are those that the rest starts with. -/
theorem Lexes.exists_tiles {start : Nat} {text : List Char} {tokens : List Token}
    {e? : Option QueryError} (h : Lexes start text tokens e?) (hend : e? = none) :
    ∃ lead tiles, (∀ c ∈ lead, isBlank c = true) ∧ text = lead ++ Tile.textOf tiles ∧
      tokens = (Tile.placed (start + lead.length) tiles).map Span.token := by
  induction h with
  | done start =>
      exact ⟨[], [], List.forall_mem_nil _, rfl, rfl⟩
  | @blank start c text tokens e? hc _ ih =>
      rcases ih hend with ⟨lead, tiles, hlead, rfl, rfl⟩
      refine ⟨c :: lead, tiles, List.forall_mem_cons.mpr ⟨hc, hlead⟩, rfl, ?_⟩
      rw [List.length_cons, Nat.add_right_comm]
      rfl
  | @token start c front left kind tokens e? hc hread _ ih =>
      rcases ih hend with ⟨lead, tiles, hlead, hleft, rfl⟩
      rcases readToken_cut hread with ⟨front', hfront, hread', hlast⟩
      cases List.append_cancel_right hfront
      let tile : Tile := ⟨kind, c, front, lead, hc, hlast, hread', hlead⟩
      have hplace : start + (c :: front).length + lead.length = start + tile.text.length := by
        rw [tile.text_length, ← Nat.add_assoc]
        rfl
      refine ⟨[], tile :: tiles, List.forall_mem_nil _, ?_, ?_⟩
      · rw [List.nil_append, Tile.textOf_cons, hleft, ← List.append_assoc, ← List.cons_append,
          ← List.cons_append]
        rfl
      · rw [hplace]
        rfl
  | fault =>
      cases hend

/--
The spans that the positions give start in order, each is lexed to its own token, and what no span
holds is blank.
-/
theorem tokens_tile_text {text : List Char} {tokens : List Token}
    (h : tokenize text = .ok tokens) :
    (tokens.Pairwise fun token later => token.position < later.position) ∧
    (∀ token ∈ tokens, token.position < text.length) ∧
    (∀ span ∈ spans text tokens, (∃ c rest, span.text = c :: rest ∧ isBlank c = false) ∧
      tokenize span.text = .ok [⟨span.token.kind, 0⟩]) ∧
    ∀ place c, text[place]? = some c → isBlank c = false →
      ∃ span ∈ spans text tokens, span.Holds place := by
  rcases (tokenize_eq_ok_iff.mp h).exists_tiles rfl with ⟨lead, tiles, hlead, rfl, rfl⟩
  rw [Nat.zero_add, Tile.spans_placed]
  refine ⟨List.pairwise_map.mpr (Tile.placed_pairwise lead.length tiles), ?_, ?_, ?_⟩
  · intro token htoken
    rcases List.mem_map.mp htoken with ⟨span, hspan, rfl⟩
    rw [List.length_append]
    exact (Tile.of_mem_placed hspan).1.2
  · intro span hspan
    rcases (Tile.of_mem_placed hspan).2 with ⟨tile, _, hkind, htext⟩
    rw [hkind, htext]
    exact ⟨⟨tile.first, tile.inner, rfl, tile.first_not_blank⟩, tile.tokenize_word⟩
  · intro place c hplace hc
    by_cases hfront : place < lead.length
    · rw [List.getElem?_append_left hfront] at hplace
      rw [hlead c (List.mem_of_getElem? hplace)] at hc
      cases hc
    · rw [List.getElem?_append_right (Nat.le_of_not_lt hfront)] at hplace
      have hholds := Tile.exists_placed_holds hplace hc lead.length
      rw [Nat.add_sub_cancel' (Nat.le_of_not_lt hfront)] at hholds
      exact hholds

/-- A word, a string, a target and a bracket touch each other, and then come two blanks. -/
theorem tokens_tile_touching :
    tokenize ['_', '"', 'é', ' ', '"', '/', 'b', '[', ' ', '\u3000', ','] =
      .ok [⟨.word "_", 0⟩, ⟨.string "é ", 1⟩, ⟨.target ⟨["b"]⟩, 5⟩, ⟨.openArray, 7⟩, ⟨.comma, 10⟩] ∧
    ∀ span ∈ [Span.mk ⟨.word "_", 0⟩ ['_'], ⟨⟨.string "é ", 1⟩, ['"', 'é', ' ', '"']⟩,
        ⟨⟨.target ⟨["b"]⟩, 5⟩, ['/', 'b']⟩, ⟨⟨.openArray, 7⟩, ['[']⟩, ⟨⟨.comma, 10⟩, [',']⟩],
      (∃ c rest, span.text = c :: rest ∧ isBlank c = false) ∧
        tokenize span.text = .ok [⟨span.token.kind, 0⟩] := by
  have h : tokenize ['_', '"', 'é', ' ', '"', '/', 'b', '[', ' ', '\u3000', ','] =
      .ok [⟨.word "_", 0⟩, ⟨.string "é ", 1⟩, ⟨.target ⟨["b"]⟩, 5⟩, ⟨.openArray, 7⟩, ⟨.comma, 10⟩] :=
    rfl
  exact ⟨h, (tokens_tile_text h).2.2.1⟩

end Query
end RecordFilter
