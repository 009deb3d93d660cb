import RecordFilter.Proofs.Query.Spelling
import RecordFilter.Proofs.Text.Escapes

/-!
# Strings in a query

What the lexer makes of a quote is compared with a grammar of quoted text: a string and the text
behind its closing quote, or the leftmost fault and its place.  The lexer follows the grammar of
the escapes that it scans.  It follows that of the documented escapes on the texts without a
signed one, and on no others.
-/

namespace RecordFilter
namespace Query

open Text (HexNumeral isBlank)
open Text.Quoted

/-!
# The answer of a grammar

A text behind a quote has the answer of a grammar with given escapes.  The quote stands at a given
place, and places count characters.
-/

section Grammar

variable {Means : List Char → Char → Prop} {start : Nat} {after : List Char}

inductive StringAnswer (Means : List Char → Char → Prop) (start : Nat) :
    List Char → Except QueryError (String × List Char) → Prop where
  | closed {front content : List Char} (rest : List Char) : Body Means front content →
      StringAnswer Means start (front ++ '"' :: rest) (.ok (String.ofList content, rest))
  | ended {front content : List Char} : Body Means front content →
      StringAnswer Means start front (.error ⟨.unterminatedString, start⟩)
  | backslash {front content : List Char} : Body Means front content →
      StringAnswer Means start (front ++ ['\\']) (.error ⟨.unterminatedString, start⟩)
  | badEscape {front content : List Char} {c : Char} {rest : List Char} :
      Body Means front content → NoEscape Means (c :: rest) →
        StringAnswer Means start (front ++ '\\' :: c :: rest)
          (.error ⟨.invalidEscape c, start + 1 + front.length⟩)

theorem exists_stringAnswer (Means : List Char → Char → Prop) (start : Nat) (after : List Char) :
    ∃ answer, StringAnswer Means start after answer := by
  rcases exists_body Means after with ⟨front, content, tail, rfl, hbody, hstop⟩
  cases hstop with
  | quote rest =>
      exact ⟨_, .closed rest hbody⟩
  | nil =>
      rw [List.append_nil]
      exact ⟨_, .ended hbody⟩
  | backslash =>
      exact ⟨_, .backslash hbody⟩
  | badEscape hnone =>
      exact ⟨_, .badEscape hbody hnone⟩

theorem StringAnswer.badEscape_inv {c : Char} {place : Nat}
    (h : StringAnswer Means start after (.error ⟨.invalidEscape c, place⟩)) :
    ∃ front rest, after = front ++ '\\' :: c :: rest ∧ NoEscape Means (c :: rest) ∧
      place = start + 1 + front.length := by
  cases h with
  | badEscape _ hnone =>
      exact ⟨_, _, rfl, hnone, rfl⟩

end Grammar

/-!
# The two grammars
-/

section Documented

variable {start : Nat} {after : List Char} {answer : Except QueryError (String × List Char)}

theorem StringAnswer.documented (h : StringAnswer ScannedEscape start after answer)
    (hnone : ¬ HasSignedEscape after) : StringAnswer Escape start after answer := by
  cases h with
  | closed rest hbody =>
      exact .closed rest (hbody.documented hnone)
  | ended hbody =>
      rw [← List.append_nil after] at hnone
      exact .ended (hbody.documented hnone)
  | backslash hbody =>
      exact .backslash (hbody.documented hnone)
  | badEscape hbody hbad =>
      exact .badEscape (hbody.documented hnone)
        fun escape c hescape => hbad escape c (.inl hescape)

theorem StringAnswer.scanned (h : StringAnswer Escape start after answer)
    (hnone : ¬ HasSignedEscape after) : StringAnswer ScannedEscape start after answer := by
  have hmeans : ∀ escape c, Escape escape c → ScannedEscape escape c :=
    fun _ _ hescape => .inl hescape
  cases h with
  | closed rest hbody =>
      exact .closed rest (hbody.mono hmeans)
  | ended hbody =>
      exact .ended (hbody.mono hmeans)
  | backslash hbody =>
      exact .backslash (hbody.mono hmeans)
  | @badEscape front content e rest hbody hbad =>
      refine .badEscape (hbody.mono hmeans) fun escape c hescape hprefix => ?_
      rcases hescape with hescape | hsigned
      · exact hbad escape c hescape hprefix
      · rcases hprefix with ⟨rest', hrest⟩
        refine hnone ⟨front, content, escape, c, rest', hbody, hsigned, ?_⟩
        rw [hrest]

/-- At the signed escape one grammar finds a fault, and the other finds none at this place. -/
theorem not_stringAnswer_of_hasSignedEscape (start : Nat) (h : HasSignedEscape after) :
    ∃ answer, StringAnswer Escape start after answer ∧
      ¬ StringAnswer ScannedEscape start after answer := by
  rcases h with ⟨front, content, escape, c, rest, hbody, hsigned, rfl⟩
  have hbad := noEscape_of_signedEscape hsigned rest
  have hscanned : ¬ NoEscape ScannedEscape (escape ++ rest) :=
    fun hnone => hnone escape c (.inr hsigned) (List.prefix_append escape rest)
  cases hsigned with
  | @codePoint digits _ _ _ =>
      refine ⟨_, .badEscape hbody hbad, fun hanswer => ?_⟩
      rcases hanswer.badEscape_inv with ⟨front', rest', htext, hnone, hplace⟩
      have hlength : front.length = front'.length := by omega
      have htail := (List.append_inj htext hlength).2
      rw [List.cons.injEq] at htail
      rw [← htail.2] at hnone
      exact hscanned hnone

theorem stringAnswer_documented_iff (start : Nat) (after : List Char) :
    (∀ answer, StringAnswer ScannedEscape start after answer ↔
      StringAnswer Escape start after answer) ↔ ¬ HasSignedEscape after := by
  constructor
  · intro hsame hsigned
    rcases not_stringAnswer_of_hasSignedEscape start hsigned with ⟨answer, hdocumented, hscanned⟩
    exact hscanned ((hsame answer).mpr hdocumented)
  · intro hnone answer
    exact ⟨fun h => h.documented hnone, fun h => h.scanned hnone⟩

end Documented

/-!
# The lexer at a quote
-/

namespace Lexer

/-- A lexer that has read the first part of a text. -/
def behind (before left : List Char) : Lexer :=
  ⟨(before ++ left).length, left⟩

/-- The next token is a string from the place on, up to a rest, or there is an error instead. -/
def Finds (lexer : Lexer) (start : Nat) : Except QueryError (String × List Char) → Prop
  | .ok (content, rest) =>
      lexer.next = (.ok (some ⟨.string content, start⟩), { lexer with rest := rest })
  | .error e => lexer.next.1 = .error e

section Quote

variable {before blanks after : List Char} {start : Nat}
  {answer answer' : Except QueryError (String × List Char)}

theorem Finds.unique {lexer : Lexer} (h : lexer.Finds start answer)
    (h' : lexer.Finds start answer') : answer = answer' := by
  rcases answer with e | ⟨content, rest⟩ <;> rcases answer' with e' | ⟨content', rest'⟩
  · have hsame := h.symm.trans h'
    cases hsame
    rfl
  · have hsame := h.symm.trans (congrArg Prod.fst h')
    cases hsame
  · have hsame := (congrArg Prod.fst h).symm.trans h'
    cases hsame
  · have hsame := h.symm.trans h'
    cases hsame
    rfl

theorem dropWhile_blanks (hblanks : ∀ c ∈ blanks, isBlank c = true) (after : List Char) :
    (blanks ++ '"' :: after).dropWhile isBlank = '"' :: after := by
  rw [List.dropWhile_append_of_pos hblanks, List.dropWhile_cons_of_neg (by decide)]

/-- The place of a text that a lexer has left, counted from the start of its whole text. -/
theorem positionOf_behind (before front tail : List Char) :
    (behind before (front ++ tail)).positionOf tail = before.length + front.length := by
  simp only [behind, positionOf, List.length_append]
  omega

theorem readToken_quote (after : List Char) :
    readToken '"' after = readString ('"' :: after) after := by
  simp [readToken]

theorem finds_of_closed (hblanks : ∀ c ∈ blanks, isBlank c = true) {content rest : List Char}
    (h : scan after = .closed content rest) :
    (behind before (blanks ++ '"' :: after)).Finds (before.length + blanks.length)
      (.ok (String.ofList content, rest)) := by
  have hread : readToken '"' after = ⟨.ok (.string (String.ofList content)), rest⟩ := by
    rw [readToken_quote, readString, h]
  rw [← positionOf_behind before blanks ('"' :: after)]
  exact next_of_cons (dropWhile_blanks hblanks after) hread

theorem finds_of_unclosed (hblanks : ∀ c ∈ blanks, isBlank c = true) (h : scan after = .unclosed) :
    (behind before (blanks ++ '"' :: after)).Finds (before.length + blanks.length)
      (.error ⟨.unterminatedString, before.length + blanks.length⟩) := by
  have hread : readToken '"' after = ⟨.error ⟨.unterminatedString, '"' :: after⟩, []⟩ := by
    rw [readToken_quote, readString, h]
  rw [← positionOf_behind before blanks ('"' :: after)]
  exact congrArg Prod.fst (next_of_error (dropWhile_blanks hblanks after) hread)

theorem finds_of_badEscape (hblanks : ∀ c ∈ blanks, isBlank c = true)
    {front place rest : List Char} {c : Char}
    (h : scan (front ++ place) = .badEscape c place rest) :
    (behind before (blanks ++ '"' :: (front ++ place))).Finds (before.length + blanks.length)
      (.error ⟨.invalidEscape c, before.length + blanks.length + 1 + front.length⟩) := by
  have hread : readToken '"' (front ++ place) = ⟨.error ⟨.invalidEscape c, place⟩, rest⟩ := by
    rw [readToken_quote, readString, h]
  have hplace := positionOf_behind before (blanks ++ '"' :: front) place
  have hsplit : blanks ++ '"' :: front ++ place = blanks ++ '"' :: (front ++ place) := by
    rw [List.append_assoc, List.cons_append]
  have hlength : before.length + (blanks ++ '"' :: front).length =
      before.length + blanks.length + 1 + front.length := by
    rw [List.length_append, List.length_cons]
    omega
  rw [hsplit, hlength] at hplace
  rw [← hplace]
  exact congrArg Prod.fst (next_of_error (dropWhile_blanks hblanks (front ++ place)) hread)

theorem finds_of_stringAnswer (hblanks : ∀ c ∈ blanks, isBlank c = true)
    (h : StringAnswer ScannedEscape (before.length + blanks.length) after answer) :
    (behind before (blanks ++ '"' :: after)).Finds (before.length + blanks.length) answer := by
  cases h with
  | closed rest hbody =>
      apply finds_of_closed hblanks
      rw [scan_append_of_body hbody, scan_close, foldr_push_closed]
  | ended hbody =>
      apply finds_of_unclosed hblanks
      rw [← List.append_nil after, scan_append_of_body hbody]
      exact List.foldr_fixed' (fun _ => rfl) _
  | backslash hbody =>
      apply finds_of_unclosed hblanks
      rw [scan_append_of_body hbody]
      exact List.foldr_fixed' (fun _ => rfl) _
  | badEscape hbody hbad =>
      rcases scan_noEscape hbad with ⟨rest, hscan⟩
      apply finds_of_badEscape hblanks
      rw [scan_append_of_body hbody, hscan]
      exact List.foldr_fixed' (fun _ => rfl) _

end Quote

/--
The lexer gives one answer at a quote, that of the grammar of the escapes that it scans.  It is
the documented answer just when the text has no signed escape.
-/
theorem finds_string {before blanks after : List Char} (hblanks : ∀ c ∈ blanks, isBlank c = true) :
    let lexer := behind before (blanks ++ '"' :: after)
    let start := before.length + blanks.length
    (∃ answer, lexer.Finds start answer) ∧
      (∀ answer, lexer.Finds start answer ↔ StringAnswer ScannedEscape start after answer) ∧
      ((∀ answer, lexer.Finds start answer ↔ StringAnswer Escape start after answer) ↔
        ¬ HasSignedEscape after) := by
  intro lexer start
  rcases exists_stringAnswer ScannedEscape start after with ⟨answer, hanswer⟩
  have hfinds : lexer.Finds start answer := finds_of_stringAnswer hblanks hanswer
  have hiff : ∀ answer, lexer.Finds start answer ↔ StringAnswer ScannedEscape start after answer := by
    intro answer'
    constructor
    · intro h
      rw [h.unique hfinds]
      exact hanswer
    · exact finds_of_stringAnswer hblanks
  refine ⟨⟨answer, hfinds⟩, hiff, ?_⟩
  rw [← stringAnswer_documented_iff start after]
  exact forall_congr' fun answer' => by rw [hiff answer']

/-- The front of a query, and two texts for a quote behind it. -/
def nilEquals : List Char := ['n', 'i', 'l', ' ', 'e', 'q']

def accentCode : List Char := ['\\', 'u', '0', '0', 'E', '9', '"']

def signedCode : List Char := ['\\', 'u', '+', '0', '4', '1', '"']

theorem finds_string_codePoint :
    (∀ c ∈ [' '], isBlank c = true) ∧
      (behind nilEquals (' ' :: '"' :: accentCode)).Finds 7 (.ok ("é", [])) ∧
      StringAnswer ScannedEscape 7 accentCode (.ok ("é", [])) := by
  have hblanks : ∀ c ∈ [' '], isBlank c = true := List.forall_mem_singleton.mpr (by decide)
  have hfinds : (behind nilEquals (' ' :: '"' :: accentCode)).Finds 7 (.ok ("é", [])) := rfl
  have hanswer := (@finds_string nilEquals [' '] accentCode hblanks).2.1 (.ok ("é", []))
  exact ⟨hblanks, hfinds, hanswer.mp hfinds⟩

/-- A plus sign is taken for a digit, where the documented answer is a bad escape. -/
theorem finds_signedCode :
    (behind nilEquals (' ' :: '"' :: signedCode)).Finds 7 (.ok ("A", [])) ∧
      StringAnswer Escape 7 signedCode (.error ⟨.invalidEscape 'u', 8⟩) ∧
      ¬ ∀ answer, ((behind nilEquals (' ' :: '"' :: signedCode)).Finds 7 answer ↔
        StringAnswer Escape 7 signedCode answer) := by
  have hfinds : (behind nilEquals (' ' :: '"' :: signedCode)).Finds 7 (.ok ("A", [])) := rfl
  have hdigits : HexNumeral ['0', '4', '1'] 'A'.toNat :=
    ⟨[0, 4, 1], .cons (.inl rfl) (.cons (.inl rfl) (.cons (.inl rfl) .nil)), rfl⟩
  have hsigned : SignedEscape ['u', '+', '0', '4', '1'] 'A' := .codePoint rfl hdigits
  have hanswer : StringAnswer Escape 7 signedCode (.error ⟨.invalidEscape 'u', 8⟩) :=
    .badEscape .nil (noEscape_of_signedEscape hsigned ['"'])
  refine ⟨hfinds, hanswer, fun hsame => ?_⟩
  cases hfinds.unique ((hsame _).mpr hanswer)

end Lexer

end Query
end RecordFilter
