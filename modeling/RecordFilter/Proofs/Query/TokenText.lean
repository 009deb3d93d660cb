import RecordFilter.Proofs.Query.Cursor
import RecordFilter.Proofs.Query.Printed

/-!
# Printed tokens in front of other text

What is written for a token is taken up by the lexer as that token, no more and no less, whatever
stands behind it.  A target only needs something behind it that ends it, which every character
does that is escaped inside of targets for this reason.
-/

namespace RecordFilter
namespace Query

/-- The lexer takes the text off the front as one token and stands right behind it. -/
def Takes (text : List Char) (kind : TokenKind) (rest : List Char) : Prop :=
  ∃ lexer, (Lexer.ofText (text ++ rest)).next = (.ok (some ⟨kind, 0⟩), lexer) ∧
    lexer.rest = rest ∧ lexer.position = text.length

section Tokens

variable {c : Char} {tail rest : List Char} {kind : TokenKind}

theorem dropWhile_isBlank (hc : Text.isBlank c = false) (text : List Char) :
    (c :: text).dropWhile Text.isBlank = c :: text :=
  List.dropWhile_cons_of_neg (by simp [hc])

theorem takes_of_readToken (hc : Text.isBlank c = false)
    (hread : readToken c (tail ++ rest) = ⟨.ok kind, rest⟩) : Takes (c :: tail) kind rest := by
  have hnext : (Lexer.mk (c :: (tail ++ rest)).length _).next = _ :=
    next_of_cons (dropWhile_isBlank hc (tail ++ rest)) hread
  have hplace : (Lexer.mk (c :: (tail ++ rest)).length (c :: (tail ++ rest))).positionOf
      (c :: (tail ++ rest)) = 0 := Nat.sub_self _
  rw [hplace] at hnext
  refine ⟨_, hnext, rfl, ?_⟩
  simp only [Lexer.position, Lexer.positionOf, List.length_cons, List.length_append]
  omega

/-- Where the lexer goes on depends on the reader alone, be it that it finds a token or not. -/
theorem rest_of_takes (hc : Text.isBlank c = false) (h : Takes (c :: tail) kind rest) :
    (readToken c (tail ++ rest)).rest = rest := by
  rcases h with ⟨lexer, hnext, hrest, -⟩
  have hdrop := dropWhile_isBlank hc (tail ++ rest)
  simp only [List.cons_append, Lexer.ofText, Lexer.next, hdrop, Prod.mk.injEq] at hnext
  rw [← hnext.2] at hrest
  exact hrest

end Tokens

/-!
# Targets
-/

theorem seam_iff {rest : List Char} :
    Seam rest ↔ ∀ c ∈ rest.head?, Text.isBlank c = true ∨ c ∈ ['(', ')', '[', ']', ','] := by
  simp only [Seam, isDelimiter, Bool.or_eq_true, beq_iff_eq, List.mem_cons, List.not_mem_nil,
    or_false, or_assoc]

theorem seam_of_takes {tail rest : List Char} {kind : TokenKind} (h : Takes ('/' :: tail) kind rest) :
    Seam rest := by
  have hrest := rest_of_takes (by decide) h
  have htarget : (readToken '/' (tail ++ rest)).rest = _ := rest_readTarget ('/' :: (tail ++ rest))
  rw [htarget] at hrest
  intro c hc
  have hhead := List.head?_dropWhile_not (fun c => !isDelimiter c) ('/' :: (tail ++ rest))
  rw [hrest, Option.mem_def.mp hc] at hhead
  simpa using hhead

/--
A target with any segments, in either of its printed forms, is taken up as the same target exactly
if nothing stands behind it, or white space, a bracket or a comma.
-/
theorem takes_targetText_iff {target : Target} (h : target.segments ≠ []) (style : Style)
    (rest : List Char) : Takes (target.text style) (.target target) rest ↔
      ∀ c ∈ rest.head?, Text.isBlank c = true ∨ c ∈ ['(', ')', '[', ']', ','] := by
  have hroot : target.isRoot = false := List.isEmpty_eq_false_iff.mpr h
  rw [← seam_iff]
  rcases exists_targetText hroot style with ⟨tail, htext⟩
  constructor
  · intro htakes
    rw [htext] at htakes
    exact seam_of_takes htakes
  · intro hseam
    have hread := readTarget_raw (fun _ => not_isDelimiter_targetText) (targetOf_text hroot style)
    have hbehind := readTarget_append hseam hread
    rw [htext] at hbehind ⊢
    exact takes_of_readToken (by decide) hbehind

/-- What looks like an escape in these segments is none. -/
def lookalikes : Target :=
  ⟨["%41~1", "é("]⟩

theorem takes_targetText_lookalikes :
    lookalikes.text .plain = "/%2541~01/é%28".toList ∧
    Takes (lookalikes.text .plain) (.target lookalikes) ['\u3000', '/'] ∧
    lookalikes.text .encoded = "/%2541~01/%C3%A9%28".toList ∧
    Takes (lookalikes.text .encoded) (.target lookalikes) [',', '"'] := by
  have hne : lookalikes.segments ≠ [] := List.cons_ne_nil _ _
  refine ⟨by decide +kernel, (takes_targetText_iff hne .plain _).mpr ?_, by decide +kernel,
    (takes_targetText_iff hne .encoded _).mpr ?_⟩
  · intro c hc
    cases hc
    exact Or.inl (by decide)
  · intro c hc
    cases hc
    exact Or.inr (by decide)

/-!
# Strings

What ends a string is its own closing quote, so a string needs nothing of the text behind it, and it
is read the same way wherever the lexer stands.
-/

theorem next_quote (before : List Char) (s : String) (rest : List Char) :
    (Lexer.behind before (Style.plain.quote s ++ rest)).next =
      (.ok (some ⟨.string s, before.length⟩),
        Lexer.behind (before ++ Style.plain.quote s) rest) := by
  have htext : Style.plain.quote s ++ rest =
      '"' :: (Text.Quoted.body s.toList ++ '"' :: rest) := by
    simp only [Style.quote, Style.content, List.cons_append, List.append_assoc, List.nil_append]
  have hscan := Text.Quoted.scan_body s.toList rest
  have hfinds := @Lexer.finds_of_closed before [] _ (List.forall_mem_nil _) _ _ hscan
  rw [List.nil_append, List.length_nil, Nat.add_zero, String.ofList_toList, ← htext] at hfinds
  rw [← Lexer.behind_move]
  exact hfinds

/--
A string of any characters, as it is printed, is taken up as the same string in front of any text,
and at any place of a text that the lexer has come to.
-/
theorem takes_stringText (s : String) (rest : List Char) :
    Takes ((Literal.string s).text .plain) (.string s) rest ∧
      ∀ before, (Lexer.behind before ((Literal.string s).text .plain ++ rest)).next =
        (.ok (some ⟨.string s, before.length⟩),
          Lexer.behind (before ++ (Literal.string s).text .plain) rest) := by
  have hnext : ∀ before, (Lexer.behind before (Style.plain.quote s ++ rest)).next = _ :=
    fun before => next_quote before s rest
  exact ⟨⟨_, hnext [], rfl, Lexer.position_behind _ rest⟩, hnext⟩

/-- A quote, a backslash, a control character with an escape of its own, and one without. -/
example : (Literal.string "\"\\\n\x7f").text .plain = "\"\\\"\\\\\\n\\u007f\"".toList := by
  decide +kernel

end Query
end RecordFilter
