import RecordFilter.Proofs.Query.Grammar

/-!
# Reading clauses

The readers of operands, operators and objects, and with them the reader of clauses, read what the
grammar says and nothing else.
-/

namespace RecordFilter
namespace Query

/-!
# Tokens with a value
-/

theorem literal?_eq_some_iff {kind : TokenKind} {value : Literal} :
    kind.literal? = some value ↔ DerivesLiteral kind value := by
  constructor
  · intro h
    cases kind <;> cases h <;> constructor
  · intro h
    cases h <;> rfl

theorem operand?_eq_some_iff {kind : TokenKind} {operand : Operand} :
    kind.operand? = some operand ↔ DerivesOperand kind operand := by
  constructor
  · intro h
    cases kind <;> cases h
    · exact .target _
    all_goals exact .literal (literal?_eq_some_iff.mp rfl)
  · intro h
    cases h with
    | target target =>
        rfl
    | literal h =>
        cases h <;> rfl

theorem bound?_eq_some_iff {kind : TokenKind} {value : Literal} :
    kind.bound? = some value ↔ ∃ bound, DerivesBound kind bound ∧ bound.toLiteral = value := by
  constructor
  · intro h
    cases kind <;> cases h <;> exact ⟨_, by constructor, rfl⟩
  · intro h
    rcases h with ⟨bound, hbound, rfl⟩
    cases hbound <;> rfl

theorem reads_operand (expected : Expectation) :
    Reads anyNext (Parser.operand expected) (Language.one DerivesOperand) anyNext := by
  refine (Reads.take expected TokenKind.operand? ⟨.nil, .literal .nil, rfl⟩).congr ?_
  intro list operand
  simp only [Language.one, operand?_eq_some_iff]

theorem reads_bound :
    Reads anyNext Parser.bound
      (Language.one fun kind value => ∃ bound, DerivesBound kind bound ∧ bound.toLiteral = value)
      anyNext := by
  refine (Reads.take .bound TokenKind.bound? ⟨.nil, .nil, rfl⟩).congr ?_
  intro list value
  simp only [Language.one, bound?_eq_some_iff]

theorem reads_require (kind : TokenKind) (expected : Expectation) :
    Reads anyNext (Parser.require kind expected) (fun list _ => list = [kind]) anyNext := by
  refine (Reads.take expected _ ⟨kind, (), if_pos rfl⟩).congr ?_
  intro list value
  constructor
  · intro hlanguage
    rcases hlanguage with ⟨found, rfl, hfound⟩
    by_cases h : found = kind
    · rw [h]
    · rw [if_neg h] at hfound
      cases hfound
  · intro hlist
    rw [hlist]
    exact ⟨kind, rfl, if_pos rfl⟩

/-- The reader of operators differs from others in its error for a word. -/
theorem reads_operator :
    Reads anyNext Parser.operator (fun list operator => list = [.operator operator]) anyNext := by
  have hreads : Reads anyNext Parser.operator
      (Language.one fun kind operator => kind = .operator operator) anyNext := by
    refine Reads.ofNext ?_ ?_ ⟨.operator .eq, .eq, rfl⟩
    · intro kind operator hkind position rest stop
      subst hkind
      rfl
    · intro tokens stop hnone
      cases tokens with
      | nil =>
          exact ⟨_, rfl, trivial⟩
      | cons token rest =>
          rcases token with ⟨kind, position⟩
          cases kind with
          | operator operator =>
              exact absurd rfl (hnone _ rfl operator)
          | _ =>
              exact ⟨_, rfl, trivial, rfl⟩
  refine hreads.congr ?_
  intro list operator
  constructor
  · intro hlist
    rcases hlist with ⟨kind, rfl, rfl⟩
    rfl
  · intro hlist
    exact ⟨_, hlist, rfl⟩

/-!
# Ranges and patterns
-/

theorem reads_bounds :
    Reads anyNext Parser.bounds
      (fun list sides => ∃ kind kind' lower upper, list = [kind, .comma, kind'] ∧
        DerivesBound kind lower ∧ DerivesBound kind' upper ∧
        (lower.toLiteral, upper.toLiteral) = sides)
      anyNext := by
  have hupper : ∀ lower : Literal, Reads anyNext
      (do
        Parser.require .comma .boundSeparator
        let upper ← Parser.bound
        return (lower, upper))
      (fun list sides => ∃ kind upper, list = [.comma, kind] ∧ DerivesBound kind upper ∧
        (lower, upper.toLiteral) = sides)
      anyNext := by
    intro lower
    refine ((reads_require .comma .boundSeparator).bind
      (fun _ => reads_bound.map (Prod.mk lower)) (fun _ _ => trivial) ?_).congr ?_
    · intro _
      exact ⟨[.nil], _, .nil, ⟨.nil, rfl, .unbounded, .nil, rfl⟩, rfl⟩
    · intro list sides
      constructor
      · intro hlanguage
        rcases hlanguage with ⟨_, _, _, rfl, rfl, _, ⟨kind, rfl, upper, hupper, rfl⟩, hsides⟩
        exact ⟨kind, upper, rfl, hupper, hsides⟩
      · intro hlanguage
        rcases hlanguage with ⟨kind, upper, rfl, hupper, hsides⟩
        exact ⟨[.comma], [kind], (), rfl, rfl, _, ⟨kind, rfl, upper, hupper, rfl⟩, hsides⟩
  refine (reads_bound.bind hupper (fun _ _ => trivial) ?_).congr ?_
  · intro lower
    exact ⟨[.comma, .nil], _, .nil, .unbounded, rfl, .nil, rfl⟩
  · intro list sides
    constructor
    · intro hlanguage
      rcases hlanguage with
        ⟨_, _, _, rfl, ⟨kind, rfl, lower, hlower, rfl⟩, kind', upper, rfl, hupper, hsides⟩
      exact ⟨kind, kind', lower, upper, rfl, hlower, hupper, hsides⟩
    · intro hlanguage
      rcases hlanguage with ⟨kind, kind', lower, upper, rfl, hlower, hupper, hsides⟩
      exact ⟨[kind], [.comma, kind'], _, rfl, ⟨kind, rfl, lower, hlower, rfl⟩, kind', upper, rfl,
        hupper, hsides⟩

theorem reads_pattern :
    Reads anyNext Parser.pattern (fun list raw => list = [.string raw]) anyNext := by
  refine (Reads.take .pattern _ ⟨.string "", "", rfl⟩).congr ?_
  intro list raw
  constructor
  · intro hlanguage
    rcases hlanguage with ⟨kind, rfl, hkind⟩
    cases kind <;> cases hkind
    rfl
  · intro hlist
    exact ⟨.string raw, hlist, rfl⟩

/-!
# Arrays
-/

def readItems (opened : Nat) : Parser (List Literal) :=
  fun stream => Parser.elements opened stream.stop stream.rest

/-- Items and the bracket behind them. -/
def ClosedItems : Language (List Literal) :=
  fun list values => ∃ items, list = items ++ [.closeArray] ∧ DerivesItems items values

theorem elements_accepts {items : List TokenKind} {values : List Literal}
    (h : DerivesItems items values) (opened : Nat) {tokens : List Token}
    (hkinds : kinds tokens = items ++ [.closeArray]) (rest : List Token) (stop : Nat) :
    Parser.elements opened stop (tokens ++ rest) = .ok values ⟨rest, stop⟩ := by
  induction h generalizing tokens with
  | last hvalue =>
      rcases kinds_eq_cons hkinds with ⟨token, right, rfl, rfl, hright⟩
      rcases kinds_eq_cons hright with ⟨close, right', rfl, hclose, hright'⟩
      rw [kinds_eq_nil hright']
      simp [Parser.elements, literal?_eq_some_iff.mpr hvalue, hclose]
  | more hvalue hitems ih =>
      rcases kinds_eq_cons hkinds with ⟨token, right, rfl, rfl, hright⟩
      rcases kinds_eq_cons hright with ⟨comma, right', rfl, hcomma, hright'⟩
      simp [Parser.elements, literal?_eq_some_iff.mpr hvalue, hcomma, ih hright']

theorem elements_returns {opened stop : Nat} {tokens : List Token} {values : List Literal}
    {after : TokenStream} (h : Parser.elements opened stop tokens = .ok values after) :
    ∃ taken left, tokens = taken ++ left ∧ after = ⟨left, stop⟩ ∧
      ClosedItems (kinds taken) values := by
  fun_induction Parser.elements opened stop tokens generalizing values after with
  | case1 | case2 | case3 | case5 | case7 =>
      cases h
  | case4 token item hitem separator rest hcomma items stream hrec ih =>
      cases h
      rcases ih hrec with ⟨taken, left, rfl, rfl, list, hlist, hitems⟩
      refine ⟨token :: separator :: taken, left, rfl, rfl, token.kind :: .comma :: list, ?_, ?_⟩
      · rw [kinds_cons, kinds_cons, hcomma, hlist]
        rfl
      · exact .more (literal?_eq_some_iff.mp hitem) hitems
  | case6 token item hitem separator rest _ hclose =>
      cases h
      refine ⟨[token, separator], rest, rfl, rfl, [token.kind], ?_, ?_⟩
      · rw [kinds_cons, kinds_cons, hclose]
        rfl
      · exact .last (literal?_eq_some_iff.mp hitem)

theorem elements_refuses {opened stop : Nat} {tokens : List Token} {e : QueryError}
    {after : TokenStream} (h : Parser.elements opened stop tokens = .error e after) :
    ∃ taken left, tokens = taken ++ left ∧ after = ⟨left, stop⟩ ∧
      Refusal (readItems opened) ClosedItems taken e left := by
  fun_induction Parser.elements opened stop tokens generalizing e after with
  | case1 =>
      cases h
      refine ⟨[], [], rfl, rfl, trivial, ?_, ?_⟩
      · exact ⟨[.nil, .closeArray], [.nil], [.nil], rfl, .last .nil⟩
      · intro token htoken
        cases htoken
  | case2 token rest hitem =>
      cases h
      refine ⟨[], token :: rest, rfl, rfl, ⟨trivial, rfl⟩, ?_, ?_⟩
      · exact ⟨[.nil, .closeArray], [.nil], [.nil], rfl, .last .nil⟩
      · intro head hnext rest' stop'
        cases hnext
        exact ⟨_, _, by
          simp only [readItems, Parser.elements, List.nil_append, hitem]
          rfl⟩
  | case3 token item hitem =>
      cases h
      refine ⟨[token], [], rfl, rfl, trivial, ?_, ?_⟩
      · exact ⟨[.closeArray], [item], [token.kind], rfl, .last (literal?_eq_some_iff.mp hitem)⟩
      · intro token htoken
        cases htoken
  | case4 | case6 =>
      cases h
  | case5 token item hitem separator rest hcomma e stream hrec ih =>
      cases h
      rcases ih hrec with ⟨taken, left, rfl, rfl, hrefusal⟩
      refine ⟨token :: separator :: taken, left, rfl, rfl, hrefusal.after [token, separator] ?_ ?_⟩
      · intro list values hclosed
        rcases hclosed with ⟨items, hlist, hitems⟩
        refine ⟨item :: values, token.kind :: .comma :: items, ?_, ?_⟩
        · rw [kinds_cons, kinds_cons, hcomma, hlist]
          rfl
        · exact .more (literal?_eq_some_iff.mp hitem) hitems
      · intro next _ rest' stop' e' after' he
        have hrest : Parser.elements opened stop' (taken ++ next :: rest') = .error e' after' := he
        simp [readItems, Parser.elements, hitem, hcomma, hrest]
  | case7 token item hitem separator rest hcomma hclose =>
      cases h
      refine ⟨[token], separator :: rest, rfl, rfl, ⟨trivial, rfl⟩, ?_, ?_⟩
      · exact ⟨[.closeArray], [item], [token.kind], rfl, .last (literal?_eq_some_iff.mp hitem)⟩
      · intro head hnext rest' stop'
        cases hnext
        exact ⟨_, _, by
          simp only [readItems, Parser.elements, List.cons_append, List.nil_append, hitem, hcomma,
            hclose, if_false]
          rfl⟩

theorem reads_items (opened : Nat) :
    Reads anyNext (readItems opened) ClosedItems anyNext where
  accepts := by
    intro tokens values hmem rest _ stop
    rcases hmem with ⟨items, hkinds, hitems⟩
    exact elements_accepts hitems opened hkinds rest stop
  returns := by
    intro tokens stop values after _ h
    rcases elements_returns h with ⟨taken, left, htokens, hafter, hlanguage⟩
    exact ⟨taken, left, htokens, hafter, hlanguage, trivial⟩
  refuses := fun _ h => elements_refuses h

/-- What comes behind the opening bracket: the closing one, or items and the closing one. -/
def readContents (opened : Nat) : Parser (List Literal) := do
  if (← get).kind? = some .closeArray then
    Parser.skip
    return []
  else readItems opened

theorem reads_contents (opened : Nat) :
    Reads anyNext (readContents opened)
      (fun list values => (list = [.closeArray] ∧ [] = values) ∨ ClosedItems list values)
      anyNext := by
  have hempty : Reads (fun next => next = some .closeArray)
      (do
        Parser.skip
        return [])
      (fun list (values : List Literal) => list = [.closeArray] ∧ [] = values) anyNext := by
    refine ((Reads.skip .closeArray).map fun _ => []).congr ?_
    intro list values
    constructor
    · intro hlanguage
      rcases hlanguage with ⟨_, hlist, hvalues⟩
      exact ⟨hlist, hvalues⟩
    · intro hlanguage
      rcases hlanguage with ⟨hlist, hvalues⟩
      exact ⟨(), hlist, hvalues⟩
  refine Reads.branch hempty ((reads_items opened).weaken fun _ _ => trivial) ?_ ?_
  · intro list values hlanguage
    rcases hlanguage with ⟨rfl, _⟩
    rfl
  · intro list values hlanguage
    rcases hlanguage with ⟨items, rfl, hitems⟩
    cases hitems with
    | last h =>
        cases h <;> exact ⟨_, by simp, rfl⟩
    | more h =>
        cases h <;> exact ⟨_, by simp, rfl⟩

theorem reads_array :
    Reads anyNext Parser.array
      (fun list values => DerivesObject .membership list (.array values)) anyNext := by
  have hreads : ∀ opened, Reads anyNext
      (do
        Parser.require .openArray .array
        readContents opened)
      (fun list values => DerivesObject .membership list (.array values)) anyNext := by
    intro opened
    refine ((reads_require .openArray .array).bind (fun _ => reads_contents opened)
      (fun _ _ => trivial) ?_).congr ?_
    · intro _
      exact ⟨[.closeArray], [], Or.inl ⟨rfl, rfl⟩⟩
    · intro list values
      constructor
      · intro hlanguage
        rcases hlanguage with ⟨_, _, _, rfl, rfl, ⟨rfl, rfl⟩ | ⟨items, rfl, hitems⟩⟩
        · exact .emptyArray
        · exact .array hitems
      · intro h
        cases h with
        | emptyArray =>
            exact ⟨[.openArray], [.closeArray], (), rfl, rfl, Or.inl ⟨rfl, rfl⟩⟩
        | array hitems =>
            exact ⟨[.openArray], _, (), rfl, rfl, Or.inr ⟨_, rfl, hitems⟩⟩
  exact Reads.ofPosition hreads (fun _ _ _ => rfl) (fun _ _ => trivial)

/-!
# Objects and clauses
-/

theorem boundOf_toLiteral (operator : Operator) (bound : Bound) :
    Clause.boundOf operator bound.toLiteral = .ok bound := by
  cases bound <;> rfl

theorem bind_of_family (subject : Operand) {operator : Operator} {object : Object}
    (h : object.family = operator.family) :
    (Clause.selected subject operator).bind object = .ok (.complete subject operator object) :=
  if_pos h

/-- The sides that were read are no booleans, so the builder takes them. -/
theorem bindLiterals_toLiteral {subject : Operand} {operator : Operator}
    (h : operator.family = .range) (lower upper : Bound) :
    (Clause.selected subject operator).bindLiterals lower.toLiteral upper.toLiteral =
      .ok (.complete subject operator (.range (Range.ofBounds lower upper))) := by
  rw [Clause.bindLiterals, boundOf_toLiteral, boundOf_toLiteral]
  exact bind_of_family subject h.symm

/-- Objects are read for the family of the operator, so binding them never fails. -/
theorem reads_object (subject : Operand) (operator : Operator) :
    Reads anyNext (Parser.object operator (.selected subject operator))
      (fun list result => ∃ object, DerivesObject operator.family list object ∧
        .ok (Clause.complete subject operator object) = result)
      anyNext := by
  unfold Parser.object
  cases hfamily : operator.family with
  | comparison =>
      refine ((reads_operand .comparand).map
        ((Clause.selected subject operator).bind ∘ Object.operand)).congr ?_
      intro list result
      have hbind := fun operand => bind_of_family subject
        (show (Object.operand operand).family = operator.family from hfamily.symm)
      constructor
      · intro hlanguage
        rcases hlanguage with ⟨operand, ⟨kind, rfl, h⟩, rfl⟩
        exact ⟨_, .operand h, (hbind operand).symm⟩
      · intro hlanguage
        rcases hlanguage with ⟨_, ⟨hoperand⟩, rfl⟩
        exact ⟨_, ⟨_, rfl, hoperand⟩, hbind _⟩
  | membership =>
      refine (reads_array.map (Clause.selected subject operator).bindArray).congr ?_
      intro list result
      have hbind := fun values => bind_of_family subject
        (show (Object.array values).family = operator.family from hfamily.symm)
      constructor
      · intro hlanguage
        rcases hlanguage with ⟨values, h, rfl⟩
        exact ⟨_, h, (hbind values).symm⟩
      · intro hlanguage
        rcases hlanguage with ⟨_, h, rfl⟩
        cases h with
        | emptyArray =>
            exact ⟨[], .emptyArray, hbind []⟩
        | array hitems =>
            exact ⟨_, .array hitems, hbind _⟩
  | range =>
      refine (reads_bounds.map fun sides =>
        (Clause.selected subject operator).bindLiterals sides.1 sides.2).congr ?_
      intro list result
      constructor
      · intro hlanguage
        rcases hlanguage with ⟨_, ⟨kind, kind', lower, upper, rfl, hlower, hupper, rfl⟩, rfl⟩
        exact ⟨_, .range hlower hupper, (bindLiterals_toLiteral hfamily lower upper).symm⟩
      · intro hlanguage
        rcases hlanguage with ⟨_, h, rfl⟩
        cases h with
        | @range _ _ lower upper hlower hupper =>
            exact ⟨_, ⟨_, _, _, _, rfl, hlower, hupper, rfl⟩,
              bindLiterals_toLiteral hfamily lower upper⟩
  | pattern =>
      refine (reads_pattern.map (Clause.selected subject operator).bindPattern).congr ?_
      intro list result
      have hbind := fun pattern => bind_of_family subject
        (show (Object.pattern pattern).family = operator.family from hfamily.symm)
      constructor
      · intro hlanguage
        rcases hlanguage with ⟨raw, rfl, rfl⟩
        exact ⟨_, .pattern raw, (hbind ⟨raw⟩).symm⟩
      · intro hlanguage
        rcases hlanguage with ⟨_, h, rfl⟩
        cases h with
        | pattern raw =>
            exact ⟨raw, rfl, hbind ⟨raw⟩⟩

theorem derivesObject_inhabited (family : OperatorFamily) :
    ∃ list object, DerivesObject family list object := by
  cases family with
  | comparison =>
      exact ⟨[.nil], _, .operand (.literal .nil)⟩
  | membership =>
      exact ⟨_, _, .emptyArray⟩
  | range =>
      exact ⟨[.nil, .comma, .nil], _, .range .nil .nil⟩
  | pattern =>
      exact ⟨_, _, .pattern ""⟩

theorem family_of_derivesObject {family : OperatorFamily} {list : List TokenKind} {object : Object}
    (h : DerivesObject family list object) : object.family = family := by
  cases h <;> rfl

/-- The clause of a result that is never an error. -/
def clauseOf (subject : Operand) : Except FilterError Clause → Clause
  | .ok clause => clause
  | .error _ => .started subject

/-- The builder's checks pass, since the object was read for the family of the operator. -/
theorem clause_run (stream : TokenStream) :
    Parser.clause stream =
      (do
        let subject ← Parser.operand .subject
        let operator ← Parser.operator
        let result ← Parser.object operator (.selected subject operator)
        return clauseOf subject result : Parser Clause) stream := by
  rw [Parser.clause, run_bind_ok (run_get stream)]
  apply run_bind_congr
  intro subject afterSubject _
  apply run_bind_congr
  intro operator afterOperator _
  have hselect : Parser.built stream.position ((Clause.ofOperand subject).select operator)
      afterOperator = .ok (.selected subject operator) afterOperator := rfl
  rw [run_bind_ok hselect]
  apply run_bind_congr
  intro result after hresult
  rcases (reads_object subject operator).returns trivial hresult with
    ⟨_, _, _, _, ⟨object, _, rfl⟩, _⟩
  rfl

theorem reads_clause : Reads anyNext Parser.clause DerivesClause anyNext := by
  have hobject : ∀ subject operator, Reads anyNext
      (do
        let result ← Parser.object operator (.selected subject operator)
        return clauseOf subject result)
      (fun list clause => ∃ object, DerivesObject operator.family list object ∧
        Clause.complete subject operator object = clause)
      anyNext := by
    intro subject operator
    refine ((reads_object subject operator).map (clauseOf subject)).congr ?_
    intro list clause
    constructor
    · intro hlanguage
      rcases hlanguage with ⟨_, ⟨object, h, rfl⟩, hclause⟩
      exact ⟨object, h, hclause⟩
    · intro hlanguage
      rcases hlanguage with ⟨object, h, hclause⟩
      exact ⟨_, ⟨object, h, rfl⟩, hclause⟩
  have hoperator : ∀ subject, Reads anyNext
      (do
        let operator ← Parser.operator
        let result ← Parser.object operator (.selected subject operator)
        return clauseOf subject result)
      (fun list clause => ∃ operator rest object, list = .operator operator :: rest ∧
        DerivesObject operator.family rest object ∧
        Clause.complete subject operator object = clause)
      anyNext := by
    intro subject
    refine (reads_operator.bind (hobject subject) (fun _ _ => trivial) ?_).congr ?_
    · intro operator
      rcases derivesObject_inhabited operator.family with ⟨list, object, h⟩
      exact ⟨list, _, object, h, rfl⟩
    · intro list clause
      constructor
      · intro hlanguage
        rcases hlanguage with ⟨_, rest, operator, rfl, rfl, object, h, hclause⟩
        exact ⟨operator, rest, object, rfl, h, hclause⟩
      · intro hlanguage
        rcases hlanguage with ⟨operator, rest, object, rfl, h, hclause⟩
        exact ⟨[.operator operator], rest, operator, rfl, rfl, object, h, hclause⟩
  have hclause : Reads anyNext
      (do
        let subject ← Parser.operand .subject
        let operator ← Parser.operator
        let result ← Parser.object operator (.selected subject operator)
        return clauseOf subject result)
      DerivesClause anyNext := by
    refine ((reads_operand .subject).bind hoperator (fun _ _ => trivial) ?_).congr ?_
    · intro subject
      exact ⟨[.operator .eq, .nil], _, .eq, [.nil], _, rfl, .operand (.literal .nil), rfl⟩
    · intro list clause
      constructor
      · intro hlanguage
        rcases hlanguage with
          ⟨_, _, subject, rfl, ⟨kind, rfl, hsubject⟩, operator, rest, object, rfl, h, rfl⟩
        exact .clause hsubject h
      · intro h
        cases h with
        | clause hsubject h =>
            exact ⟨[_], _, _, rfl, ⟨_, rfl, hsubject⟩, _, _, _, rfl, h, rfl⟩
  have hreader : Parser.clause = _ := funext clause_run
  rw [hreader]
  exact hclause

end Query
end RecordFilter
