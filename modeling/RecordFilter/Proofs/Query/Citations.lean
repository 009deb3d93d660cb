import RecordFilter.Proofs.Query.Depth

/-!
# Errors and the text at their places

A reader that fails names one of the tokens of its stream, by its place and by what it is, or the
end of the stream.  What a token is can be seen in the text at its place, so an error of the parser
can be checked against the text as an error of the lexer can.
-/

namespace RecordFilter
namespace Query

/-!
# Tokens that errors name
-/

/-- The token that a fault is about, where the parser finds it. -/
def Fault.cited? : Fault → Option TokenKind
  | unexpectedToken _ found => some found
  | unknownOperator keyword => some (.word keyword)
  | unterminatedGroup => some .openGroup
  | unterminatedArray => some .openArray
  | nestingTooDeep _ => some .openGroup
  | _ => none

/-- The error is about one of these tokens, or about the end behind them. -/
inductive Cites (all : List Token) (stop : Nat) : QueryError → Prop where
  | token {fault : Fault} {kind : TokenKind} {position : Nat} :
      fault.cited? = some kind → ⟨kind, position⟩ ∈ all → Cites all stop ⟨fault, position⟩
  | stop (expected : Expectation) : Cites all stop ⟨.unexpectedEnd expected, stop⟩

variable {all tokens : List Token} {stop : Nat}

theorem cites_unexpected (htokens : tokens ⊆ all) (expected : Expectation) :
    Cites all stop ((TokenStream.mk tokens stop).unexpected expected) := by
  cases tokens with
  | nil =>
      exact .stop expected
  | cons token rest =>
      exact .token rfl (htokens List.mem_cons_self)

theorem mem_of_nextKind {kind : TokenKind} (h : nextKind tokens = some kind)
    (htokens : tokens ⊆ all) : ⟨kind, (TokenStream.mk tokens stop).position⟩ ∈ all := by
  cases tokens with
  | nil =>
      cases h
  | cons token rest =>
      cases h
      exact htokens List.mem_cons_self

/-!
# Readers that name tokens

The tokens of the whole stream are fixed.  Whatever reader is called, its stream holds some of them
and has the same end.
-/

structure Reports {α : Type} (all : List Token) (stop : Nat) (before : Lookahead)
    (reader : Parser α) : Prop where
  keeps : ∀ {tokens value after}, tokens ⊆ all → before (nextKind tokens) →
    reader ⟨tokens, stop⟩ = .ok value after → ∃ left, left ⊆ all ∧ after = ⟨left, stop⟩
  cites : ∀ {tokens e after}, tokens ⊆ all → before (nextKind tokens) →
    reader ⟨tokens, stop⟩ = .error e after → Cites all stop e

namespace Reports

variable {α β : Type} {before : Lookahead}

theorem pure (value : α) : Reports all stop before (Pure.pure value) where
  keeps := by
    intro tokens value after htokens _ h
    cases h
    exact ⟨tokens, htokens, rfl⟩
  cites := by
    intro tokens e after _ _ h
    cases h

theorem throw {e : QueryError} (he : Cites all stop e) :
    Reports all stop before (MonadExcept.throw e : Parser α) where
  keeps := by
    intro tokens value after _ _ h
    cases h
  cites := by
    intro tokens e' after _ _ h
    cases h
    exact he

/-- The second reader may build on what it means that the first has succeeded. -/
theorem bind {first : Parser α} {second : α → Parser β} (hfirst : Reports all stop before first)
    (hsecond : ∀ a, (∃ tokens after, before (nextKind tokens) ∧
      first ⟨tokens, stop⟩ = .ok a after) → Reports all stop anyNext (second a)) :
    Reports all stop before (first >>= second) where
  keeps := by
    intro tokens b after htokens hbefore h
    rcases of_run_bind_ok h with ⟨a, _, ha, hb⟩
    rcases hfirst.keeps htokens hbefore ha with ⟨left, hleft, rfl⟩
    exact (hsecond a ⟨tokens, _, hbefore, ha⟩).keeps hleft trivial hb
  cites := by
    intro tokens e after htokens hbefore h
    rcases of_run_bind_error h with he | ⟨a, _, ha, he⟩
    · exact hfirst.cites htokens hbefore he
    · rcases hfirst.keeps htokens hbefore ha with ⟨left, hleft, rfl⟩
      exact (hsecond a ⟨tokens, _, hbefore, ha⟩).cites hleft trivial he

/-- A look at the stream, after which its next token is known. -/
theorem get {next : TokenStream → Parser α}
    (h : ∀ tokens, tokens ⊆ all → before (nextKind tokens) →
      Reports all stop (fun kind => kind = nextKind tokens) (next ⟨tokens, stop⟩)) :
    Reports all stop before (MonadState.get >>= next) where
  keeps := by
    intro tokens value after htokens hbefore hrun
    rw [run_bind_ok (run_get _)] at hrun
    exact (h tokens htokens hbefore).keeps htokens rfl hrun
  cites := by
    intro tokens e after htokens hbefore hrun
    rw [run_bind_ok (run_get _)] at hrun
    exact (h tokens htokens hbefore).cites htokens rfl hrun

theorem weaken {before' : Lookahead} {reader : Parser α} (h : Reports all stop before reader)
    (hbefore : ∀ next, before' next → before next) : Reports all stop before' reader where
  keeps := fun htokens hnext => h.keeps htokens (hbefore _ hnext)
  cites := fun htokens hnext => h.cites htokens (hbefore _ hnext)

theorem branch {kind : TokenKind} {yes no : Parser α}
    (hyes : Reports all stop (fun next => next = some kind) yes)
    (hno : Reports all stop anyNext no) :
    Reports all stop before (do if (← MonadState.get).kind? = some kind then yes else no) := by
  refine .get fun tokens _ _ => ?_
  rw [TokenStream.kind?_mk]
  split
  · next hkind =>
      exact hyes.weaken fun _ hnext => hnext.trans hkind
  · exact hno.weaken fun _ _ => trivial

theorem skip : Reports all stop before Parser.skip where
  keeps := by
    intro tokens value after htokens _ h
    cases h
    exact ⟨tokens.drop 1, List.Subset.trans (List.drop_subset 1 tokens) htokens, rfl⟩
  cites := by
    intro tokens e after _ _ h
    cases h

theorem refuse (expected : Expectation) :
    Reports all stop before (Parser.refuse expected : Parser α) :=
  .get fun _ htokens _ => .throw (cites_unexpected htokens expected)

theorem take (expected : Expectation) (read : TokenKind → Option α) :
    Reports all stop before (Parser.take expected read) := by
  refine .get fun tokens htokens _ => ?_
  split
  · exact skip.bind fun _ _ => .pure _
  · exact refuse expected

theorem operator : Reports all stop before Parser.operator := by
  refine .get fun tokens htokens _ => ?_
  simp only [TokenStream.kind?_mk]
  split
  · exact skip.bind fun _ _ => .pure _
  · next keyword hkind =>
      exact .throw (.token rfl (mem_of_nextKind hkind htokens))
  · exact refuse .operator

/-!
# Clauses
-/

theorem bounds : Reports all stop before Parser.bounds :=
  (take .bound TokenKind.bound?).bind fun _ _ =>
    (take .boundSeparator _).bind fun _ _ =>
      (take .bound TokenKind.bound?).bind fun _ _ => .pure _

/-- The array that is never closed is the one that was opened. -/
theorem items {opened : Nat} (hopened : ⟨.openArray, opened⟩ ∈ all) :
    Reports all stop before (readItems opened) where
  keeps := by
    intro tokens values after htokens _ h
    rcases elements_returns h with ⟨taken, left, rfl, rfl, _⟩
    exact ⟨left, List.Subset.trans (List.subset_append_right taken left) htokens, rfl⟩
  cites := by
    intro tokens e after htokens hbefore h
    clear hbefore
    replace h : Parser.elements opened stop tokens = .error e after := h
    fun_induction Parser.elements opened stop tokens generalizing e after with
    | case1 | case3 =>
        cases h
        exact .token rfl hopened
    | case2 token rest =>
        cases h
        exact cites_unexpected htokens .arrayElement
    | case4 | case6 =>
        cases h
    | case5 token item hitem separator rest hcomma e stream hrec ih =>
        cases h
        exact ih (fun _ hmem => htokens (List.mem_cons_of_mem _ (List.mem_cons_of_mem _ hmem))) hrec
    | case7 token item hitem separator rest =>
        cases h
        exact cites_unexpected (fun _ hmem => htokens (List.mem_cons_of_mem _ hmem)) .arraySeparator

theorem array : Reports all stop before Parser.array := by
  refine .get fun tokens htokens _ => ?_
  refine (take .array _).bind fun _ hopen => ?_
  -- Since the bracket was taken, the position that was noted before is that of the bracket.
  have hopened : ⟨.openArray, (TokenStream.mk tokens stop).position⟩ ∈ all := by
    rcases hopen with ⟨tokens', after, hnext, hrun⟩
    rcases (reads_require .openArray .array).returns trivial hrun with
      ⟨taken, left, rfl, _, hkinds, _⟩
    refine mem_of_nextKind ?_ htokens
    rw [← hnext]
    exact nextKind_of_head (by rw [hkinds]; rfl) left
  exact .branch (skip.bind fun _ _ => .pure []) (items hopened)

theorem object (operator : Operator) (clause : Clause) :
    Reports all stop before (Parser.object operator clause) := by
  unfold Parser.object
  cases operator.family with
  | comparison =>
      exact (take .comparand TokenKind.operand?).bind fun _ _ => .pure _
  | membership =>
      exact array.bind fun _ _ => .pure _
  | range =>
      exact bounds.bind fun _ _ => .pure _
  | pattern =>
      exact (take .pattern _).bind fun _ _ => .pure _

/-- The builder refuses nothing, so no error is about a whole clause. -/
theorem clause : Reports all stop before Parser.clause := by
  have hclause : Parser.clause = _ := funext clause_run
  rw [hclause]
  exact (take .subject TokenKind.operand?).bind fun subject _ =>
    operator.bind fun op _ => (object op (.selected subject op)).bind fun _ _ => .pure _

/-!
# Filters
-/

theorem element {group : Parser Filter}
    (hgroup : Reports all stop (fun next => next = some .openGroup) group) :
    Reports all stop before (Parser.element group) :=
  .branch (hgroup.bind fun _ _ => .pure _) (clause.bind fun _ _ => .pure _)

theorem joined {element : Parser Node} (helement : Reports all stop anyNext element)
    (rounds : Nat) (filter : Filter) :
    Reports all stop before (Parser.joined element rounds filter) := by
  induction rounds generalizing before filter with
  | zero =>
      exact .pure filter
  | succ rounds ih =>
      refine .get fun tokens _ _ => ?_
      dsimp only
      split
      · exact .pure filter
      · exact (take .conjunction Parser.conjunction?).bind fun _ _ =>
          helement.bind fun _ _ => ih _

theorem condition {group : Parser Filter}
    (hgroup : Reports all stop (fun next => next = some .openGroup) group) :
    Reports all stop before (Parser.condition group) :=
  (element hgroup).bind fun _ _ => .get fun _ _ _ => joined (element hgroup) _ _

/-- The parenthesis that is never closed is the one in front of the group. -/
theorem enclosed {inner : Parser Filter} (hinner : Reports all stop anyNext inner) :
    Reports all stop (fun next => next = some .openGroup) (Parser.enclosed inner) := by
  refine .get fun tokens htokens hopen => ?_
  refine skip.bind fun _ _ => hinner.bind fun filter _ => ?_
  exact .branch (skip.bind fun _ _ => .pure filter)
    (.throw (.token rfl (mem_of_nextKind hopen htokens)))

theorem tooDeep : Reports all stop (fun next => next = some .openGroup) Parser.tooDeep :=
  .get fun _ htokens hopen => .throw (.token rfl (mem_of_nextKind hopen htokens))

theorem nested (depth : Nat) : Reports all stop before (Parser.nested depth) := by
  induction depth generalizing before with
  | zero =>
      exact condition tooDeep
  | succ depth ih =>
      exact condition (enclosed ih)

theorem filter : Reports all stop before Parser.filter := by
  refine (nested Parser.maxDepth).bind fun filter _ => .get fun tokens _ _ => ?_
  split
  · exact .pure filter
  · exact refuse .conjunctionOrEnd

end Reports

theorem cites_of_parse {e : QueryError} (h : (TokenStream.mk all stop).parse.1 = .error e) :
    Cites all stop e := by
  unfold TokenStream.parse at h
  cases hrun : Parser.filter ⟨all, stop⟩ with
  | ok filter after =>
      rw [hrun] at h
      cases h
  | error e' after =>
      rw [hrun] at h
      cases h
      have hreports : Reports all stop anyNext Parser.filter := .filter
      exact hreports.cites (List.Subset.refl all) trivial hrun

/-!
# What stands at a position

Positions count from the place where the text starts.
-/

/-- The text from this position on has the property. -/
def Stands (start : Nat) (text : List Char) (position : Nat) (property : List Char → Prop) : Prop :=
  ∃ front rest, text = front ++ rest ∧ position = start + front.length ∧ property rest

section Stands

variable {start position : Nat} {text : List Char} {property : List Char → Prop}

theorem Stands.behind (front : List Char)
    (h : Stands (start + front.length) text position property) :
    Stands start (front ++ text) position property := by
  rcases h with ⟨front', rest, rfl, rfl, hproperty⟩
  refine ⟨front ++ front', rest, (List.append_assoc _ _ _).symm, ?_, hproperty⟩
  rw [List.length_append, Nat.add_assoc]

theorem stands_zero_iff :
    Stands 0 text position property ↔ position ≤ text.length ∧ property (text.drop position) := by
  constructor
  · intro h
    rcases h with ⟨front, rest, rfl, rfl, hproperty⟩
    rw [Nat.zero_add, List.drop_left, List.length_append]
    exact ⟨Nat.le_add_right _ _, hproperty⟩
  · intro h
    refine ⟨text.take position, text.drop position, (List.take_append_drop _ _).symm, ?_, h.2⟩
    rw [List.length_take, Nat.min_eq_left h.1, Nat.zero_add]

variable {tokens' : List Token} {e? : Option QueryError}

theorem Lexes.token_stands (h : Lexes start text tokens' e?) :
    ∀ token ∈ tokens', Stands start text token.position (StartsWith token.kind) := by
  induction h with
  | done | fault =>
      exact List.forall_mem_nil _
  | @blank start c text tokens e? _ _ ih =>
      exact fun token htoken => (ih token htoken).behind [c]
  | @token start c front left kind tokens e? hc hread _ ih =>
      refine List.forall_mem_cons.mpr ⟨?_, ?_⟩
      · exact ⟨[], c :: (front ++ left), rfl, rfl, c, _, left, rfl, hc, hread⟩
      · exact fun token htoken => (ih token htoken).behind (c :: front)

theorem Lexes.error_stands (h : Lexes start text tokens' e?) :
    ∀ e ∈ e?, Stands start text e.position e.fault.PointsAt := by
  induction h with
  | done =>
      intro e he
      cases he
  | @blank start c text tokens e? _ _ ih =>
      exact fun e he => (ih e he).behind [c]
  | @token start c front left kind tokens e? _ _ _ ih =>
      exact fun e he => (ih e he).behind (c :: front)
  | @fault start c text front left e _ hread hfront =>
      intro e' he
      cases he
      exact ⟨front, e.place, hfront.symm, rfl, (readToken_error hread).2⟩

end Stands

/-!
# Errors of texts
-/

theorem StartsWith.head? {c : Char} {kind : TokenKind} {text : List Char}
    (h : StartsWith kind text) (hmark : kind.mark? = some c) : text.head? = some c := by
  rcases h with ⟨d, rest, left, rfl, _, hread⟩
  rw [readToken_mark hread hmark]
  rfl

theorem Fault.pointsAt_of_cited {fault : Fault} {kind : TokenKind} {text : List Char}
    (hcited : fault.cited? = some kind) (h : StartsWith kind text) : fault.PointsAt text := by
  cases fault with
  | unexpectedToken expected found =>
      cases hcited
      exact h
  | unknownOperator keyword =>
      cases hcited
      refine ⟨h, ?_⟩
      rcases h with ⟨c, rest, left, rfl, _, hread⟩
      exact readToken_word hread
  | unterminatedGroup | nestingTooDeep _ =>
      cases hcited
      exact h.head? rfl
  | unterminatedArray =>
      cases hcited
      exact h.head? rfl
  | _ =>
      cases hcited

/-- Only what is said of the end can be said where no text is left. -/
theorem Fault.PointsAt.eq_nil_iff {fault : Fault} {text : List Char} (h : fault.PointsAt text) :
    text = [] ↔ ∃ expected, fault = .unexpectedEnd expected := by
  constructor
  · rintro rfl
    cases fault with
    | unexpectedEnd expected =>
        exact ⟨expected, rfl⟩
    | unexpectedToken _ _ =>
        rcases h with ⟨c, rest, _, hnil, _⟩
        cases hnil
    | unknownOperator _ =>
        rcases h.1 with ⟨c, rest, _, hnil, _⟩
        cases hnil
    | invalidEscape c =>
        cases List.prefix_nil.mp h
    | invalidNumber number =>
        rcases h with ⟨hnumber, c, hc, _⟩
        rw [List.prefix_nil.mp hnumber] at hc
        cases hc
    | invalidTarget raw _ =>
        rcases h with ⟨hraw, hslash⟩
        rw [List.prefix_nil.mp hraw] at hslash
        cases hslash
    | _ =>
        cases h
  · rintro ⟨expected, rfl⟩
    exact h

theorem stands_of_parse {text : String} {e : QueryError} (h : Filter.parse text = .error e) :
    Stands 0 text.toList e.position e.fault.PointsAt := by
  cases htokens : tokenize text.toList with
  | error e' =>
      rw [Filter.parse, TokenStream.ofText, htokens] at h
      cases h
      rcases tokenize_eq_error_iff.mp htokens with ⟨tokens, hlexes⟩
      exact hlexes.error_stands e rfl
  | ok tokens =>
      rw [parse_of_tokenize htokens] at h
      have hlexes := tokenize_eq_ok_iff.mp htokens
      cases cites_of_parse h with
      | token hcited hmem =>
          rcases hlexes.token_stands _ hmem with ⟨front, rest, htext, hposition, hstarts⟩
          exact ⟨front, rest, htext, hposition, Fault.pointsAt_of_cited hcited hstarts⟩
      | stop expected =>
          refine ⟨text.toList, [], (List.append_nil _).symm, ?_, rfl⟩
          rw [Nat.zero_add, String.length_toList]

/--
An error is at the place that it talks about, which is the end of the text exactly when something
is missing there.
-/
theorem parse_error_points {text : String} {e : QueryError} (h : Filter.parse text = .error e) :
    e.position ≤ text.length ∧
    (e.position = text.length ↔ ∃ expected, e.fault = .unexpectedEnd expected) ∧
    e.fault.PointsAt (text.toList.drop e.position) := by
  rcases stands_zero_iff.mp (stands_of_parse h) with ⟨hposition, hpoints⟩
  rw [String.length_toList] at hposition
  refine ⟨hposition, ?_, hpoints⟩
  rw [← hpoints.eq_nil_iff, List.drop_eq_nil_iff, String.length_toList]
  omega

/-- The array is opened inside a group, and neither of the two is closed. -/
theorem parse_error_points_array :
    Filter.parse "\u3000(nil in [nil, true" = .error ⟨.unterminatedArray, 9⟩ ∧
      Fault.unterminatedArray.PointsAt ("\u3000(nil in [nil, true".toList.drop 9) := by
  have hlex : TokenStream.ofText "\u3000(nil in [nil, true" = .ok ⟨[⟨.openGroup, 1⟩, ⟨.nil, 2⟩,
      ⟨.operator .isIn, 6⟩, ⟨.openArray, 9⟩, ⟨.nil, 10⟩, ⟨.comma, 13⟩, ⟨.boolean true, 15⟩], 19⟩ := by
    rfl
  have hparse : Filter.parse "\u3000(nil in [nil, true" = .error ⟨.unterminatedArray, 9⟩ := by
    rw [parse_of_ofText hlex]
    rfl
  exact ⟨hparse, (parse_error_points hparse).2.2⟩

end Query
end RecordFilter
