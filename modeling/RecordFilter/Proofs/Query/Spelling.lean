import RecordFilter.Proofs.Query.Grammar
import RecordFilter.Proofs.Query.Places

/-!
# The tokens that a text spells

Lexing is described as a relation between a text, the kinds of the tokens at its front and the
text behind them.  Such pieces can be put together, and a text that has been read to its end is
read the same way in front of a delimiter.  Positions are left out, since they change when a text
becomes part of another.
-/

namespace RecordFilter
namespace Query

open Text (isBlank)

inductive Spells : List Char → List TokenKind → List Char → Prop where
  | done (rest : List Char) : Spells rest [] rest
  | blank {c : Char} {text rest : List Char} {list : List TokenKind} :
      isBlank c = true → Spells text list rest → Spells (c :: text) list rest
  | token {c : Char} {text left rest : List Char} {kind : TokenKind} {list : List TokenKind} :
      isBlank c = false → readToken c text = ⟨.ok kind, left⟩ → Spells left list rest →
      Spells (c :: text) (kind :: list) rest

/-!
# Putting pieces together
-/

namespace Spells

theorem trans {text between rest : List Char} {front back : List TokenKind}
    (hfront : Spells text front between) (hback : Spells between back rest) :
    Spells text (front ++ back) rest := by
  induction hfront with
  | done =>
      exact hback
  | blank hc _ ih =>
      exact .blank hc (ih hback)
  | token hc hread _ ih =>
      exact .token hc hread (ih hback)

theorem append {text left : List Char} {list : List TokenKind} (h : Spells text list left)
    {rest : List Char} (hrest : Seam rest) : Spells (text ++ rest) list (left ++ rest) := by
  induction h with
  | done left =>
      exact .done (left ++ rest)
  | blank hc _ ih =>
      exact .blank hc ih
  | token hc hread _ ih =>
      exact .token hc (readToken_append hrest hread) ih

/-- A text that has been read to its end, and a text behind it that starts with a delimiter. -/
theorem append_trans {text rest left : List Char} {front back : List TokenKind}
    (hfront : Spells text front []) (hrest : Seam rest) (hback : Spells rest back left) :
    Spells (text ++ rest) (front ++ back) left :=
  (hfront.append hrest).trans hback

/-- A text is spelled in one way, so what is spelled in front of it can be taken off. -/
theorem split {text between : List Char} {front list : List TokenKind}
    (hfront : Spells text front between) (h : Spells text list []) :
    ∃ back, list = front ++ back ∧ Spells between back [] := by
  induction hfront generalizing list with
  | done =>
      exact ⟨list, rfl, h⟩
  | blank hc _ ih =>
      cases h with
      | blank _ hrest =>
          exact ih hrest
      | token hc' _ _ =>
          rw [hc] at hc'
          cases hc'
  | token hc hread _ ih =>
      cases h with
      | blank hc' _ =>
          rw [hc] at hc'
          cases hc'
      | token _ hread' hrest =>
          rw [hread] at hread'
          cases hread'
          rcases ih hrest with ⟨back, rfl, hback⟩
          exact ⟨back, rfl, hback⟩

theorem one {c : Char} {text left : List Char} {kind : TokenKind} (hc : isBlank c = false)
    (hread : readToken c text = ⟨.ok kind, left⟩) : Spells (c :: text) [kind] left :=
  .token hc hread (.done left)

end Spells

/-!
# Between and around texts
-/

theorem spells_conjunction (conjunction : Conjunction) :
    Spells conjunction.keyword.toList [conjunction.kind] [] := by
  cases conjunction with
  | and =>
      exact .one (by decide) rfl
  | or =>
      exact .one (by decide) rfl

theorem Spells.space {front back : List Char} {list list' : List TokenKind}
    (hfront : Spells front list []) (hback : Spells back list' []) :
    Spells (front ++ ' ' :: back) (list ++ list') [] :=
  hfront.append_trans (seam_cons (by decide) back) (.blank (by decide) hback)

theorem Spells.conjoin {front back : List Char} {list list' : List TokenKind}
    (hfront : Spells front list []) (conjunction : Conjunction) (hback : Spells back list' []) :
    Spells (front ++ ' ' :: (conjunction.keyword.toList ++ ' ' :: back))
      (list ++ conjunction.kind :: list') [] :=
  hfront.space ((spells_conjunction conjunction).space hback)

/-- Two texts around a mark that ends the first of them. -/
theorem Spells.separate {front back : List Char} {list list' : List TokenKind} {mark : Char}
    {kind : TokenKind} (hfront : Spells front list []) (hmark : isDelimiter mark = true)
    (hblank : isBlank mark = false) (hread : ∀ rest, readToken mark rest = ⟨.ok kind, rest⟩)
    (hback : Spells back list' []) : Spells (front ++ mark :: back) (list ++ kind :: list') [] :=
  hfront.append_trans (seam_cons hmark back) (.token hblank (hread back) hback)

theorem Spells.comma {front back : List Char} {list list' : List TokenKind}
    (hfront : Spells front list []) (hback : Spells back list' []) :
    Spells (front ++ ',' :: back) (list ++ .comma :: list') [] :=
  hfront.separate (by decide) (by decide) (fun _ => rfl) hback

theorem Spells.enclose {text : List Char} {list : List TokenKind} (h : Spells text list []) :
    Spells ('(' :: (text ++ [')'])) (.openGroup :: list ++ [.closeGroup]) [] :=
  .token (by decide) rfl (h.separate (by decide) (by decide) (fun _ => rfl) (.done []))

theorem Spells.bracket {text : List Char} {list : List TokenKind} (h : Spells text list []) :
    Spells ('[' :: (text ++ [']'])) (.openArray :: list ++ [.closeArray]) [] :=
  .token (by decide) rfl (h.separate (by decide) (by decide) (fun _ => rfl) (.done []))

/-!
# The lexer spells

The tokens that a text is lexed to are of the kinds that it spells.
-/

theorem Lexes.spells {start : Nat} {text : List Char} {tokens : List Token}
    {e? : Option QueryError} (h : Lexes start text tokens e?) (hend : e? = none) :
    Spells text (kinds tokens) [] := by
  induction h with
  | done =>
      exact .done []
  | blank hc _ ih =>
      exact .blank hc (ih hend)
  | token hc hread _ ih =>
      exact .token hc hread (ih hend)
  | fault =>
      cases hend

theorem Spells.lexes {text rest : List Char} {list : List TokenKind} (h : Spells text list rest)
    (hrest : rest = []) (start : Nat) :
    ∃ tokens, Lexes start text tokens none ∧ kinds tokens = list := by
  induction h generalizing start with
  | done =>
      rw [hrest]
      exact ⟨[], .done start, rfl⟩
  | blank hc _ ih =>
      rcases ih hrest (start + 1) with ⟨tokens, hlexes, hkinds⟩
      exact ⟨tokens, .blank hc hlexes, hkinds⟩
  | token hc hread _ ih =>
      rcases readToken_suffix hread with ⟨front, rfl⟩
      rcases ih hrest _ with ⟨tokens, hlexes, hkinds⟩
      refine ⟨_, .token hc hread hlexes, ?_⟩
      rw [kinds_cons, hkinds]

theorem spells_of_tokenize {text : List Char} {tokens : List Token}
    (h : tokenize text = .ok tokens) : Spells text (kinds tokens) [] :=
  (tokenize_eq_ok_iff.mp h).spells rfl

theorem tokenize_of_spells {text : List Char} {list : List TokenKind} (h : Spells text list []) :
    ∃ tokens, tokenize text = .ok tokens ∧ kinds tokens = list := by
  rcases h.lexes rfl 0 with ⟨tokens, hlexes, hkinds⟩
  exact ⟨tokens, tokenize_eq_ok_iff.mpr hlexes, hkinds⟩

end Query
end RecordFilter
