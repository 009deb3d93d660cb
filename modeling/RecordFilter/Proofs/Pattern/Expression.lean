import RecordFilter.Proofs.Pattern.Engine

/-!
# The meaning of expressions

The expression of a pattern is read as regular expressions are: a mark stands for itself only when
it is escaped, a star repeats what is right before it, a dot takes any one character, line breaks
included, and the anchors hold only where the whole text starts and ends.  An expression finds a
text when it matches some stretch of it.  So read, the expression of a pattern finds exactly the
texts that the items of the pattern match.
-/

namespace RecordFilter
namespace Pattern
namespace Expression

/-!
# Syntax
-/

inductive Atom where
  | start
  | stop
  | anyChar
  | literal (c : Char)
deriving DecidableEq

inductive Symbol where
  | atom (atom : Atom)
  | star
deriving DecidableEq

inductive Piece where
  | once (atom : Atom)
  | repeated (atom : Atom)
deriving DecidableEq

/-- A mark that is not escaped; most of them have no use in the expressions of patterns. -/
def ofMark? (c : Char) : Option Symbol :=
  if c = '^' then some (.atom .start)
  else if c = '$' then some (.atom .stop)
  else if c = '.' then some (.atom .anyChar)
  else if c = '*' then some .star
  else none

def symbols? : List Char → Option (List Symbol)
  | [] => some []
  | c :: rest =>
      if c = '\\' then
        match rest with
        | [] => none
        | d :: rest' =>
            if isMeta d then (symbols? rest').map (.atom (.literal d) :: ·) else none
      else if isMeta c then (ofMark? c).bind fun symbol => (symbols? rest).map (symbol :: ·)
      else (symbols? rest).map (.atom (.literal c) :: ·)

/-- A star needs something in front of it to repeat. -/
def pieces? : List Symbol → Option (List Piece)
  | [] => some []
  | .star :: _ => none
  | .atom atom :: .star :: rest => (pieces? rest).map (.repeated atom :: ·)
  | .atom atom :: rest => (pieces? rest).map (.once atom :: ·)

def read? (expression : List Char) : Option (List Piece) :=
  (symbols? expression).bind pieces?

/-!
# Meaning
-/

/-- Between what is before and behind it, an atom takes a stretch of the text. -/
inductive Takes : Atom → (before taken behind : List Char) → Prop where
  | start (behind : List Char) : Takes .start [] [] behind
  | stop (before : List Char) : Takes .stop before [] []
  | anyChar (before : List Char) (c : Char) (behind : List Char) :
      Takes .anyChar before [c] behind
  | literal {c d : Char} (before behind : List Char) :
      Agree c d → Takes (.literal c) before [d] behind

/-- The pieces match from a place in the text onwards, up to any other. -/
inductive Accepts : List Piece → (before behind : List Char) → Prop where
  | nil (before behind : List Char) : Accepts [] before behind
  | once {atom : Atom} {pieces : List Piece} {before taken behind : List Char} :
      Takes atom before taken behind → Accepts pieces (before ++ taken) behind →
      Accepts (.once atom :: pieces) before (taken ++ behind)
  | leave {atom : Atom} {pieces : List Piece} {before behind : List Char} :
      Accepts pieces before behind → Accepts (.repeated atom :: pieces) before behind
  | again {atom : Atom} {pieces : List Piece} {before taken behind : List Char} :
      Takes atom before taken behind →
      Accepts (.repeated atom :: pieces) (before ++ taken) behind →
      Accepts (.repeated atom :: pieces) before (taken ++ behind)

/-- The expression can be read, and matches a stretch of the text. -/
def Finds (expression text : List Char) : Prop :=
  ∃ pieces, read? expression = some pieces ∧
    ∃ before behind, text = before ++ behind ∧ Accepts pieces before behind

/-!
# Reading the expressions of patterns
-/

def symbolsOf : Item → List Symbol
  | .anyRun => [.atom .anyChar, .star]
  | .anyOne => [.atom .anyChar]
  | .literal c => [.atom (.literal c)]

def pieceOf : Item → Piece
  | .anyRun => .repeated .anyChar
  | .anyOne => .once .anyChar
  | .literal c => .once (.literal c)

theorem symbols?_mark {c : Char} {symbol : Symbol} (hescape : c ≠ '\\') (hmeta : isMeta c = true)
    (hmark : ofMark? c = some symbol) (rest : List Char) :
    symbols? (c :: rest) = (symbols? rest).map (symbol :: ·) := by
  rw [symbols?.eq_def]
  simp only [if_neg hescape, hmeta, if_true, hmark, Option.bind_some]

theorem symbols?_literal (c : Char) (rest : List Char) :
    symbols? (Item.expression (.literal c) ++ rest) =
      (symbols? rest).map (.atom (.literal c) :: ·) := by
  by_cases hmeta : isMeta c = true
  · have hexpression : Item.expression (.literal c) = ['\\', c] := if_pos hmeta
    rw [hexpression, List.cons_append, List.singleton_append, symbols?.eq_def]
    simp only [if_true, hmeta]
  · have hexpression : Item.expression (.literal c) = [c] := if_neg hmeta
    have hescape : c ≠ '\\' := by
      rintro rfl
      exact hmeta (by decide)
    rw [hexpression, List.singleton_append, symbols?.eq_def]
    simp only [if_neg hescape, if_neg hmeta]

theorem symbols?_item (item : Item) (rest : List Char) :
    symbols? (item.expression ++ rest) = (symbols? rest).map (symbolsOf item ++ ·) := by
  have hdot : ∀ rest, symbols? ('.' :: rest) = (symbols? rest).map (.atom .anyChar :: ·) :=
    symbols?_mark (by decide) (by decide) rfl
  have hstar : ∀ rest, symbols? ('*' :: rest) = (symbols? rest).map (.star :: ·) :=
    symbols?_mark (by decide) (by decide) rfl
  cases item with
  | anyRun =>
      show symbols? ('.' :: '*' :: rest) = _
      rw [hdot, hstar, Option.map_map]
      rfl
  | anyOne =>
      exact hdot rest
  | literal c =>
      exact symbols?_literal c rest

theorem symbols?_items (items : List Item) (rest : List Char) :
    symbols? (items.flatMap Item.expression ++ rest) =
      (symbols? rest).map (items.flatMap symbolsOf ++ ·) := by
  induction items with
  | nil =>
      exact Option.map_id'.symm
  | cons item items ih =>
      rw [List.flatMap_cons, List.append_assoc, symbols?_item, ih, Option.map_map,
        List.flatMap_cons]
      simp only [Function.comp_def, List.append_assoc]

theorem pieces?_atom {atom : Atom} {rest : List Symbol} (h : rest.head? ≠ some .star) :
    pieces? (.atom atom :: rest) = (pieces? rest).map (.once atom :: ·) := by
  cases rest with
  | nil =>
      rfl
  | cons symbol rest =>
      cases symbol with
      | star =>
          exact absurd rfl h
      | atom other =>
          rfl

/-- No item starts with a star, so none is taken to repeat what is in front of it. -/
theorem pieces?_items (items : List Item) {rest : List Symbol} (h : rest.head? ≠ some .star) :
    pieces? (items.flatMap symbolsOf ++ rest) = (pieces? rest).map (items.map pieceOf ++ ·) ∧
      (items.flatMap symbolsOf ++ rest).head? ≠ some .star := by
  induction items with
  | nil =>
      exact ⟨Option.map_id'.symm, h⟩
  | cons item items ih =>
      rcases ih with ⟨hpieces, hhead⟩
      rw [List.flatMap_cons, List.append_assoc, List.map_cons]
      cases item with
      | anyRun =>
          refine ⟨?_, fun hstar => nomatch hstar⟩
          show (pieces? (items.flatMap symbolsOf ++ rest)).map _ = _
          rw [hpieces, Option.map_map]
          rfl
      | anyOne | literal c =>
          refine ⟨?_, fun hstar => nomatch hstar⟩
          show pieces? (.atom _ :: (items.flatMap symbolsOf ++ rest)) = _
          rw [pieces?_atom hhead, hpieces, Option.map_map]
          rfl

theorem symbols?_anchored (items : List Item) :
    symbols? ('^' :: (items.flatMap Item.expression ++ ['$'])) =
      some (.atom .start :: (items.flatMap symbolsOf ++ [.atom .stop])) := by
  have hstart : ∀ rest, symbols? ('^' :: rest) = (symbols? rest).map (.atom .start :: ·) :=
    symbols?_mark (by decide) (by decide) rfl
  have hstop : symbols? ['$'] = some [.atom .stop] := by
    decide
  rw [hstart, symbols?_items, hstop]
  rfl

theorem read?_anchored (items : List Item) :
    read? ('^' :: (items.flatMap Item.expression ++ ['$'])) =
      some (.once .start :: (items.map pieceOf ++ [.once .stop])) := by
  have hend : ([.atom .stop] : List Symbol).head? ≠ some .star := by
    decide
  rcases pieces?_items items hend with ⟨hpieces, hhead⟩
  rw [read?, symbols?_anchored, Option.bind_some, pieces?_atom hhead, hpieces]
  rfl

theorem read?_expressionText (pattern : Pattern) :
    read? pattern.expressionText =
      some (.once .start :: (pattern.items.map pieceOf ++ [.once .stop])) :=
  read?_anchored pattern.items

/-!
# What the expressions of patterns find
-/

variable {pieces : List Piece} {before behind : List Char}

theorem accepts_start_iff : Accepts (.once .start :: pieces) before behind ↔
    before = [] ∧ Accepts pieces [] behind := by
  constructor
  · intro h
    cases h with
    | once htakes hrest =>
        cases htakes
        exact ⟨rfl, hrest⟩
  · rintro ⟨rfl, hrest⟩
    show Accepts _ [] ([] ++ behind)
    exact .once (.start behind) hrest

theorem accepts_stop_iff : Accepts [.once .stop] before behind ↔ behind = [] := by
  constructor
  · intro h
    cases h with
    | once htakes hrest =>
        cases htakes
        rfl
  · rintro rfl
    show Accepts _ before ([] ++ [])
    exact .once (.stop before) (.nil _ [])

theorem accepts_anyChar_iff : Accepts (.once .anyChar :: pieces) before behind ↔
    ∃ c rest, behind = c :: rest ∧ Accepts pieces (before ++ [c]) rest := by
  constructor
  · intro h
    cases h with
    | once htakes hrest =>
        cases htakes with
        | anyChar _ c _ =>
            exact ⟨c, _, rfl, hrest⟩
  · rintro ⟨c, rest, rfl, hrest⟩
    show Accepts _ before ([c] ++ rest)
    exact .once (.anyChar before c rest) hrest

theorem accepts_literal_iff {c : Char} : Accepts (.once (.literal c) :: pieces) before behind ↔
    ∃ d rest, behind = d :: rest ∧ Agree c d ∧ Accepts pieces (before ++ [d]) rest := by
  constructor
  · intro h
    cases h with
    | once htakes hrest =>
        cases htakes with
        | literal _ _ hagree =>
            exact ⟨_, _, rfl, hagree, hrest⟩
  · rintro ⟨d, rest, rfl, hagree, hrest⟩
    show Accepts _ before ([d] ++ rest)
    exact .once (.literal before rest hagree) hrest

theorem Accepts.repeated {list : List Piece} (h : Accepts list before behind)
    (hlist : list = .repeated .anyChar :: pieces) :
    ∃ front rest, behind = front ++ rest ∧ Accepts pieces (before ++ front) rest := by
  induction h with
  | nil | once =>
      cases hlist
  | @leave _ _ before behind hrest ih =>
      cases hlist
      refine ⟨[], behind, rfl, ?_⟩
      rw [List.append_nil]
      exact hrest
  | @again _ _ before taken behind htakes hrest ih =>
      cases hlist
      rcases ih rfl with ⟨front, rest, rfl, hfront⟩
      refine ⟨taken ++ front, rest, (List.append_assoc _ _ _).symm, ?_⟩
      rw [← List.append_assoc]
      exact hfront

theorem accepts_repeated_iff : Accepts (.repeated .anyChar :: pieces) before behind ↔
    ∃ front rest, behind = front ++ rest ∧ Accepts pieces (before ++ front) rest := by
  constructor
  · intro h
    exact h.repeated rfl
  · rintro ⟨front, rest, rfl, hrest⟩
    induction front generalizing before with
    | nil =>
        rw [List.append_nil] at hrest
        exact .leave hrest
    | cons c front ih =>
        show Accepts _ before ([c] ++ (front ++ rest))
        refine .again (.anyChar before c _) (ih ?_)
        rw [List.append_assoc]
        exact hrest

/-- The last anchor makes the pieces of items take the text to its end. -/
theorem accepts_items_iff {items : List Item} :
    Accepts (items.map pieceOf ++ [.once .stop]) before behind ↔ Matches Agree items behind := by
  induction items generalizing before behind with
  | nil =>
      exact accepts_stop_iff.trans matches_nil_iff.symm
  | cons item items ih =>
      rw [List.map_cons, List.cons_append]
      cases item with
      | anyRun =>
          rw [pieceOf, accepts_repeated_iff, matches_anyRun_iff]
          simp only [ih]
      | anyOne =>
          rw [pieceOf, accepts_anyChar_iff, matches_anyOne_iff]
          simp only [ih]
      | literal c =>
          rw [pieceOf, accepts_literal_iff, matches_literal_iff]
          simp only [ih]

theorem finds_expressionText_iff {pattern : Pattern} {text : List Char} :
    Finds pattern.expressionText text ↔ Matches Agree pattern.items text := by
  unfold Finds
  rw [read?_expressionText]
  constructor
  · rintro ⟨pieces, hpieces, before, behind, rfl, haccepts⟩
    cases hpieces
    rcases accepts_start_iff.mp haccepts with ⟨rfl, hitems⟩
    exact accepts_items_iff.mp hitems
  · intro h
    refine ⟨_, rfl, [], text, rfl, ?_⟩
    exact accepts_start_iff.mpr ⟨rfl, accepts_items_iff.mpr h⟩

end Expression

/-!
# Patterns and values
-/

/--
A text has one reading as items.  A pattern whose expression can be built matches a string exactly
if its items match the whole of it, which is when its expression finds the string, and it matches
nothing that is not a string.
-/
theorem matchesValue_iff [Engine] {pattern : Pattern} (h : pattern.compiles = true) :
    ∃ items, (∀ other, ReadsAs pattern.raw.toList other ↔ other = items) ∧
      (∀ text, pattern.matchesValue (.string text) = true ↔ Matches Agree items text.toList) ∧
      (∀ text, pattern.matchesValue (.string text) = true ↔
        Expression.Finds pattern.expression.toList text.toList) ∧
      ∀ value, (∀ text, value ≠ .string text) → pattern.matchesValue value = false := by
  have htext : ∀ text, pattern.matchesValue (.string text) = true ↔
      Matches Agree pattern.items text.toList :=
    fun _ => matchesText_iff h
  refine ⟨pattern.items, fun _ => readsAs_iff, htext, ?_, ?_⟩
  · intro text
    rw [htext, expression, String.toList_ofList, Expression.finds_expressionText_iff]
  · intro value hvalue
    cases value with
    | string text =>
        exact absurd rfl (hvalue text)
    | null | bool | number | array | object =>
        rfl

/-- The Kelvin sign is a `k` up to case, a run takes line breaks, and an escaped star is a star. -/
theorem matchesValue_iff_kelvin :
    (Pattern.mk "k*\\*_").compiles = true ∧
    (Pattern.mk "k*\\*_").matchesValue (.string "\u212a\n*\n") = true ∧
    (Pattern.mk "k*\\*_").matchesValue (.bool true) = false := by
  have hcompiles : (Pattern.mk "k*\\*_").compiles = true := by
    decide
  rcases matchesValue_iff hcompiles with ⟨items, hreading, htext, -, hother⟩
  have hitems : [.literal 'k', .anyRun, .literal '*', .anyOne] = items :=
    (hreading _).mp (.plain (by decide) (by decide) (by decide)
      (.anyRun (.escaped '*' (.anyOne .nil))))
  refine ⟨hcompiles, (htext _).mpr ?_, hother _ (fun _ h => nomatch h)⟩
  rw [← hitems]
  have hkelvin : Agree 'k' '\u212a' := by
    decide +kernel
  have hstar : Agree '*' '*' :=
    agree_iff.mpr rfl
  exact .literal hkelvin (.anyRun ['\n'] (.literal hstar (.anyOne '\n' .nil)))

end Pattern
end RecordFilter
