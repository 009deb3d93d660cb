import RecordFilter.Proofs.Query.Clauses

/-!
# Reading filters

The loop over the elements of a filter is followed first, for a reader of elements of any kind.
The reader of groups is then described by induction on the depth that it is given.
-/

namespace RecordFilter
namespace Query

/-!
# The loop over elements
-/

/-- A filter ends before a closing parenthesis or at the end of the tokens. -/
def filterEnd : Lookahead :=
  fun next => next = none ∨ next = some .closeGroup

instance (next : Option TokenKind) : Decidable (filterEnd next) :=
  inferInstanceAs (Decidable (_ ∨ _))

theorem conjunction?_eq_some_iff {kind : TokenKind} {conjunction : Conjunction} :
    Parser.conjunction? kind = some conjunction ↔ DerivesConjunction kind conjunction := by
  constructor
  · intro h
    cases kind <;> cases h <;> constructor
  · intro h
    cases h <;> rfl

theorem not_filterEnd_of_conjunction {kind : TokenKind} {conjunction : Conjunction}
    (h : DerivesConjunction kind conjunction) : ¬filterEnd (some kind) := by
  cases h <;> decide

theorem reads_conjunction :
    Reads anyNext (Parser.take .conjunction Parser.conjunction?)
      (Language.one DerivesConjunction) anyNext := by
  refine (Reads.take .conjunction Parser.conjunction? ⟨.and, .and, rfl⟩).congr ?_
  intro list conjunction
  simp only [Language.one, conjunction?_eq_some_iff]

section Loop

variable {element : Parser Node} {language : Language Node}

/-- The loop with as many rounds as there are tokens. -/
def loop (element : Parser Node) (filter : Filter) : Parser Filter :=
  fun stream => Parser.joined element stream.rest.length filter stream

theorem joined_end (rounds : Nat) (filter : Filter) {tokens : List Token} {stop : Nat}
    (h : filterEnd (nextKind tokens)) :
    Parser.joined element rounds filter ⟨tokens, stop⟩ = .ok filter ⟨tokens, stop⟩ := by
  cases rounds with
  | zero =>
      rfl
  | succ rounds =>
      have hkind : (TokenStream.mk tokens stop).kind? = none ∨
          (TokenStream.mk tokens stop).kind? = some .closeGroup := h
      rw [Parser.joined, run_bind_ok (run_get _), if_pos hkind]
      rfl

theorem joined_next (rounds : Nat) (filter : Filter) {tokens : List Token} {stop : Nat}
    (h : ¬filterEnd (nextKind tokens)) :
    Parser.joined element (rounds + 1) filter ⟨tokens, stop⟩ =
      (do
        let conjunction ← Parser.take .conjunction Parser.conjunction?
        let node ← element
        Parser.joined element rounds (.join filter conjunction node) : Parser Filter)
        ⟨tokens, stop⟩ := by
  have hkind : ¬((TokenStream.mk tokens stop).kind? = none ∨
      (TokenStream.mk tokens stop).kind? = some .closeGroup) := h
  rw [Parser.joined, run_bind_ok (run_get _), if_neg hkind]

theorem joined_rounds (helement : Reads anyNext element language anyNext) (m n : Nat)
    (filter : Filter) (tokens : List Token) (stop : Nat) (hm : tokens.length ≤ m)
    (hn : tokens.length ≤ n) :
    Parser.joined element m filter ⟨tokens, stop⟩ =
      Parser.joined element n filter ⟨tokens, stop⟩ := by
  induction m generalizing n filter tokens with
  | zero =>
      have hnil : tokens = [] := List.length_eq_zero_iff.mp (Nat.le_zero.mp hm)
      rw [hnil, joined_end 0 filter (Or.inl rfl), joined_end n filter (Or.inl rfl)]
  | succ m ih =>
      by_cases hend : filterEnd (nextKind tokens)
      · rw [joined_end (m + 1) filter hend, joined_end n filter hend]
      · cases tokens with
        | nil =>
            exact absurd (Or.inl rfl) hend
        | cons token rest =>
            cases n with
            | zero =>
                cases hn
            | succ n =>
                rw [joined_next m filter hend, joined_next n filter hend]
                apply run_bind_congr
                intro conjunction afterConjunction hconjunction
                apply run_bind_congr
                intro node afterNode hnode
                rcases reads_conjunction.returns trivial hconjunction with
                  ⟨taken, left, htokens, rfl, ⟨kind, hkind, _⟩, _⟩
                rcases helement.returns trivial hnode with ⟨taken', left', rfl, rfl, _, _⟩
                have hlength : left'.length < (token :: rest).length := by
                  rcases kinds_eq_cons hkind with ⟨_, _, rfl, _, _⟩
                  rw [htokens]
                  simp only [List.length_cons, List.length_append]
                  omega
                exact ih n (.join filter conjunction node) left' (by omega) (by omega)

theorem loop_end (filter : Filter) {tokens : List Token} {stop : Nat}
    (h : filterEnd (nextKind tokens)) :
    loop element filter ⟨tokens, stop⟩ = .ok filter ⟨tokens, stop⟩ :=
  joined_end tokens.length filter h

theorem loop_refused (filter : Filter) {tokens : List Token} {stop : Nat}
    (hend : ¬filterEnd (nextKind tokens))
    (h : (nextKind tokens).bind Parser.conjunction? = none) :
    loop element filter ⟨tokens, stop⟩ =
      .error ((TokenStream.mk tokens stop).unexpected .conjunction) ⟨tokens, stop⟩ := by
  cases tokens with
  | nil =>
      exact absurd (Or.inl rfl) hend
  | cons token rest =>
      show Parser.joined element (rest.length + 1) filter ⟨token :: rest, stop⟩ = _
      rw [joined_next rest.length filter hend, run_bind_error (take_error (token :: rest) h)]

theorem loop_next (helement : Reads anyNext element language anyNext) (filter : Filter)
    {token : Token} {rest : List Token} {stop : Nat} {conjunction : Conjunction}
    (h : DerivesConjunction token.kind conjunction) :
    loop element filter ⟨token :: rest, stop⟩ =
      (do
        let node ← element
        loop element (.join filter conjunction node) : Parser Filter) ⟨rest, stop⟩ := by
  show Parser.joined element (rest.length + 1) filter ⟨token :: rest, stop⟩ = _
  have hend : ¬filterEnd (nextKind (token :: rest)) := not_filterEnd_of_conjunction h
  rw [joined_next rest.length filter hend,
    run_bind_ok (take_ok (conjunction?_eq_some_iff.mpr h))]
  apply run_bind_congr
  intro node after hnode
  rcases helement.returns trivial hnode with ⟨taken, left, rfl, rfl, _, _⟩
  exact joined_rounds helement _ _ _ left stop (by simp) (Nat.le_refl _)

/-- A round of the loop finds the end of the filter, no conjunction, or a further element. -/
theorem loop_cases (tokens : List Token) :
    filterEnd (nextKind tokens) ∨
      (¬filterEnd (nextKind tokens) ∧ (nextKind tokens).bind Parser.conjunction? = none) ∨
      ∃ token rest conjunction, tokens = token :: rest ∧
        DerivesConjunction token.kind conjunction := by
  by_cases hend : filterEnd (nextKind tokens)
  · exact Or.inl hend
  · cases hread : (nextKind tokens).bind Parser.conjunction? with
    | none =>
        exact Or.inr (Or.inl ⟨hend, rfl⟩)
    | some conjunction =>
        cases tokens with
        | nil =>
            cases hread
        | cons token rest =>
            exact Or.inr (Or.inr ⟨token, rest, conjunction, rfl, conjunction?_eq_some_iff.mp hread⟩)

/-- What has been read stands in front; the loop adds to it. -/
theorem loop_returns (helement : Reads anyNext element language anyNext) {front : List TokenKind}
    {filter result : Filter} {tokens : List Token} {stop : Nat} {after : TokenStream}
    (hfront : Joins language front filter)
    (h : loop element filter ⟨tokens, stop⟩ = .ok result after) :
    ∃ taken left, tokens = taken ++ left ∧ after = ⟨left, stop⟩ ∧
      Joins language (front ++ kinds taken) result ∧ filterEnd (nextKind left) := by
  induction hn : tokens.length using Nat.strongRecOn generalizing front filter tokens with
  | ind n ih =>
      rcases loop_cases tokens with hend | ⟨hend, hnone⟩ |
        ⟨token, rest, conjunction, rfl, hconjunction⟩
      · rw [loop_end filter hend] at h
        cases h
        refine ⟨[], tokens, rfl, rfl, ?_, hend⟩
        rw [kinds_nil, List.append_nil]
        exact hfront
      · rw [loop_refused filter hend hnone] at h
        cases h
      · rw [loop_next helement filter hconjunction] at h
        rcases of_run_bind_ok h with ⟨node, _, hnode, hloop⟩
        rcases helement.returns trivial hnode with ⟨taken, left, rfl, rfl, hlanguage, _⟩
        have hlength : left.length < n := by
          rw [← hn, List.length_cons, List.length_append]
          omega
        rcases ih left.length hlength (.join hfront hconjunction hlanguage) hloop rfl with
          ⟨taken', left', rfl, rfl, hjoins, hend'⟩
        refine ⟨token :: taken ++ taken', left', ?_, rfl, ?_, hend'⟩
        · rw [List.append_assoc]
          rfl
        · rw [List.append_assoc] at hjoins
          simpa using hjoins

theorem loop_refuses (helement : Reads anyNext element language anyNext) {front : List TokenKind}
    {filter : Filter} {tokens : List Token} {stop : Nat} {e : QueryError} {after : TokenStream}
    (hfront : Joins language front filter)
    (h : loop element filter ⟨tokens, stop⟩ = .error e after) :
    ∃ taken left, tokens = taken ++ left ∧ after = ⟨left, stop⟩ ∧
      Refusal (loop element filter) (fun list => Joins language (front ++ list)) taken e left := by
  induction hn : tokens.length using Nat.strongRecOn generalizing front filter tokens with
  | ind n ih =>
      rcases loop_cases tokens with hend | ⟨hend, hnone⟩ |
        ⟨token, rest, conjunction, rfl, hconjunction⟩
      · rw [loop_end filter hend] at h
        cases h
      · rw [loop_refused filter hend hnone] at h
        cases h
        refine ⟨[], tokens, rfl, rfl, unexpected_blames .conjunction tokens stop, ?_, ?_⟩
        · refine ⟨[], filter, ?_⟩
          simpa using hfront
        · intro token htoken rest stop'
          have hhead : nextKind ([] ++ token :: rest) = nextKind ([] ++ tokens) :=
            nextKind_append_of_head htoken rest
          rw [List.nil_append, List.nil_append] at hhead
          rw [← hhead] at hend hnone
          exact ⟨_, _, loop_refused filter hend hnone⟩
      · rw [loop_next helement filter hconjunction] at h
        rcases of_run_bind_error h with he | ⟨node, _, hnode, hloop⟩
        · rcases helement.refuses trivial he with ⟨taken, left, rfl, rfl, hrefusal⟩
          have hbind : Refusal (do
                let node ← element
                loop element (.join filter conjunction node) : Parser Filter)
              (fun list => Joins language (front ++ token.kind :: list)) taken e left := by
            refine hrefusal.bind ?_
            intro list node hlanguage
            exact viable_of_mem (.join hfront hconjunction hlanguage)
          refine ⟨token :: taken, left, rfl, rfl, hbind.after [token] ?_ ?_⟩
          · intro list result hjoins
            exact ⟨result, hjoins⟩
          · intro next _ rest' stop' e' after' he'
            exact (loop_next helement filter hconjunction).trans he'
        · rcases helement.returns trivial hnode with ⟨taken, left, rfl, rfl, hlanguage, _⟩
          have hlength : left.length < n := by
            rw [← hn, List.length_cons, List.length_append]
            omega
          rcases ih left.length hlength (.join hfront hconjunction hlanguage) hloop rfl with
            ⟨taken', left', rfl, rfl, hrefusal⟩
          refine ⟨token :: taken ++ taken', left', ?_, rfl, hrefusal.after (token :: taken) ?_ ?_⟩
          · rw [List.append_assoc]
            rfl
          · intro list result hjoins
            refine ⟨result, ?_⟩
            simpa using hjoins
          · intro next _ rest' stop' e' after' he'
            rw [List.cons_append, loop_next helement filter hconjunction,
              run_bind_ok (helement.accepts hlanguage trivial stop')]
            exact he'

end Loop

/-!
# Conditions
-/

section Condition

variable {group : Parser Filter} {language : Language Node}

theorem condition_eq (group : Parser Filter) :
    Parser.condition group = (do
      let first ← Parser.element group
      loop (Parser.element group) (.single first)) :=
  rfl

/-- Reading a filter leads into the loop with that filter, whatever comes behind it. -/
theorem condition_run (helement : Reads anyNext (Parser.element group) language anyNext)
    {list : List TokenKind} {filter : Filter} (h : Joins language list filter)
    {tokens : List Token} (hkinds : kinds tokens = list) (rest : List Token) (stop : Nat) :
    Parser.condition group ⟨tokens ++ rest, stop⟩ =
      loop (Parser.element group) filter ⟨rest, stop⟩ := by
  induction h generalizing tokens rest with
  | single hnode =>
      subst hkinds
      rw [condition_eq, run_bind_ok (helement.accepts hnode trivial stop)]
  | join hleft hconjunction hnode ih =>
      rcases kinds_eq_append hkinds with ⟨left, right, rfl, hfront, hright⟩
      rcases kinds_eq_cons hright with ⟨token, right', rfl, rfl, rfl⟩
      rw [List.append_assoc, ih hfront, List.cons_append, loop_next helement _ hconjunction,
        run_bind_ok (helement.accepts hnode trivial stop)]

theorem reads_condition (helement : Reads anyNext (Parser.element group) language anyNext) :
    Reads anyNext (Parser.condition group) (Joins language) filterEnd where
  accepts := by
    intro tokens filter hjoins rest hend stop
    rw [condition_run helement hjoins rfl rest stop, loop_end filter hend]
  returns := by
    intro tokens stop filter after _ h
    rw [condition_eq] at h
    rcases of_run_bind_ok h with ⟨node, _, hnode, hloop⟩
    rcases helement.returns trivial hnode with ⟨taken, left, rfl, rfl, hlanguage, _⟩
    rcases loop_returns helement (.single hlanguage) hloop with
      ⟨taken', left', rfl, rfl, hjoins, hend⟩
    refine ⟨taken ++ taken', left', by rw [List.append_assoc], rfl, ?_, hend⟩
    rw [kinds_append]
    exact hjoins
  refuses := by
    intro tokens stop e after _ h
    rw [condition_eq] at h
    rcases of_run_bind_error h with he | ⟨node, _, hnode, hloop⟩
    · rcases helement.refuses trivial he with ⟨taken, left, rfl, rfl, hrefusal⟩
      refine ⟨taken, left, rfl, rfl, hrefusal.bind ?_⟩
      intro list node hlanguage
      exact viable_of_mem (.single hlanguage)
    · rcases helement.returns trivial hnode with ⟨taken, left, rfl, rfl, hlanguage, _⟩
      rcases loop_refuses helement (.single hlanguage) hloop with
        ⟨taken', left', rfl, rfl, hrefusal⟩
      refine ⟨taken ++ taken', left', by rw [List.append_assoc], rfl, hrefusal.after taken ?_ ?_⟩
      · intro list filter hjoins
        exact ⟨filter, hjoins⟩
      · intro next _ rest stop' e' after' he'
        rw [condition_eq, run_bind_ok (helement.accepts hlanguage trivial stop')]
        exact he'

end Condition

/-!
# Groups
-/

/-- The end of a group, where a filter has already ended. -/
def closing (opened : Nat) (filter : Filter) : Parser Filter := do
  if (← get).kind? = some .closeGroup then
    Parser.skip
    return filter
  else throw ⟨.unterminatedGroup, opened⟩

theorem reads_closing (opened : Nat) (filter : Filter) :
    Reads filterEnd (closing opened filter)
      (fun list result => list = [.closeGroup] ∧ filter = result) anyNext where
  accepts := by
    intro tokens result hlanguage rest _ stop
    rcases hlanguage with ⟨hkinds, rfl⟩
    rcases kinds_eq_cons hkinds with ⟨⟨kind, position⟩, right, rfl, hkind, hright⟩
    cases hkind
    rw [kinds_eq_nil hright]
    rfl
  returns := by
    intro tokens stop result after hend h
    cases tokens with
    | nil =>
        cases h
    | cons token rest =>
        rcases token with ⟨kind, position⟩
        rcases hend with hend | hend <;> cases hend
        cases h
        exact ⟨[_], rest, rfl, rfl, ⟨rfl, rfl⟩, trivial⟩
  refuses := by
    intro tokens stop e after hend h
    cases tokens with
    | nil =>
        cases h
        refine ⟨[], [], rfl, rfl, trivial, ⟨[.closeGroup], filter, rfl, rfl⟩, ?_⟩
        intro token htoken
        cases htoken
    | cons token rest =>
        rcases token with ⟨kind, position⟩
        rcases hend with hend | hend <;> cases hend
        cases h

theorem reads_enclosed {inner : Parser Filter} {language : Language Filter}
    (hinner : Reads anyNext inner language filterEnd)
    (hsome : ∃ list filter, language list filter) :
    Reads (fun next => next = some .openGroup) (Parser.enclosed inner)
      (fun list filter => ∃ inside, list = .openGroup :: inside ++ [.closeGroup] ∧
        language inside filter)
      anyNext := by
  have hrest : ∀ opened, Reads anyNext
      (do
        let filter ← inner
        closing opened filter)
      (fun list filter => ∃ inside, list = inside ++ [.closeGroup] ∧ language inside filter)
      anyNext := by
    intro opened
    refine (hinner.bind (reads_closing opened) ?_ ?_).congr ?_
    · intro filter tokens result rest hlanguage _
      rcases hlanguage with ⟨hkinds, _⟩
      exact Or.inr (nextKind_of_head (by rw [hkinds]; rfl) rest)
    · intro filter
      exact ⟨[.closeGroup], filter, rfl, rfl⟩
    · intro list filter
      constructor
      · intro hlanguage
        rcases hlanguage with ⟨inside, _, _, rfl, hinside, rfl, rfl⟩
        exact ⟨inside, rfl, hinside⟩
      · intro hlanguage
        rcases hlanguage with ⟨inside, rfl, hinside⟩
        exact ⟨inside, [.closeGroup], filter, rfl, hinside, rfl, rfl⟩
  have hreads : ∀ opened, Reads (fun next => next = some .openGroup)
      (do
        Parser.skip
        let filter ← inner
        closing opened filter)
      (fun list filter => ∃ inside, list = .openGroup :: inside ++ [.closeGroup] ∧
        language inside filter)
      anyNext := by
    intro opened
    refine ((Reads.skip .openGroup).bind (fun _ => hrest opened) (fun _ _ => trivial) ?_).congr ?_
    · intro _
      rcases hsome with ⟨list, filter, h⟩
      exact ⟨list ++ [.closeGroup], filter, list, rfl, h⟩
    · intro list filter
      constructor
      · intro hlanguage
        rcases hlanguage with ⟨_, _, _, rfl, rfl, inside, rfl, hinside⟩
        exact ⟨inside, rfl, hinside⟩
      · intro hlanguage
        rcases hlanguage with ⟨inside, rfl, hinside⟩
        exact ⟨[.openGroup], inside ++ [.closeGroup], (), rfl, rfl, inside, rfl, hinside⟩
  refine Reads.ofPosition hreads (fun _ _ _ => rfl) ?_
  intro tokens filter rest hlanguage _
  rcases hlanguage with ⟨inside, hkinds, _⟩
  exact nextKind_of_head (by rw [hkinds]; rfl) rest

/-!
# Depth
-/

/-- The language of elements in which groups nest at most so deep. -/
def NodesWithin (depth : Nat) : Language Node :=
  fun list node => DerivesNode list node ∧ node.depth ≤ depth

def FiltersWithin (depth : Nat) : Language Filter :=
  fun list filter => DerivesFilter list filter ∧ filter.depth ≤ depth

theorem derivesFilter_of_joins {depth : Nat} {list : List TokenKind} {filter : Filter}
    (h : Joins (NodesWithin depth) list filter) : FiltersWithin depth list filter := by
  induction h with
  | single hnode =>
      exact ⟨.single hnode.1, hnode.2⟩
  | join _ hconjunction hnode ih =>
      exact ⟨.join ih.1 hconjunction hnode.1, Nat.max_le.mpr ⟨ih.2, hnode.2⟩⟩

theorem joins_of_derivesFilter {depth : Nat} : ∀ {list : List TokenKind} {filter : Filter},
    DerivesFilter list filter → filter.depth ≤ depth → Joins (NodesWithin depth) list filter
  | _, _, .single hnode, hdepth => .single ⟨hnode, hdepth⟩
  | _, _, .join hleft hconjunction hnode, hdepth =>
      .join (joins_of_derivesFilter hleft (Nat.le_trans (Nat.le_max_left _ _) hdepth)) hconjunction
        ⟨hnode, Nat.le_trans (Nat.le_max_right _ _) hdepth⟩

theorem joins_iff {depth : Nat} (list : List TokenKind) (filter : Filter) :
    Joins (NodesWithin depth) list filter ↔ FiltersWithin depth list filter :=
  ⟨derivesFilter_of_joins, fun h => joins_of_derivesFilter h.1 h.2⟩

/-- The least of the queries, which serves where any would do. -/
theorem derivesClause_nil :
    DerivesClause [.nil, .operator .eq, .nil]
      (.complete (.literal .nil) .eq (.operand (.literal .nil))) :=
  .clause (.literal .nil) (.operand (.literal .nil))

theorem nodesWithin_nil (depth : Nat) :
    NodesWithin depth [.nil, .operator .eq, .nil]
      (.clause (.complete (.literal .nil) .eq (.operand (.literal .nil)))) :=
  ⟨.clause derivesClause_nil, Nat.zero_le depth⟩

theorem filtersWithin_inhabited (depth : Nat) : ∃ list filter, FiltersWithin depth list filter :=
  ⟨_, _, .single (nodesWithin_nil depth).1, (nodesWithin_nil depth).2⟩

/-- A clause starts with its subject. -/
theorem head_of_derivesClause {list : List TokenKind} {clause : Clause}
    (h : DerivesClause list clause) : ∃ kind, kind ≠ .openGroup ∧ list.head? = some kind := by
  cases h with
  | clause hsubject _ =>
      refine ⟨_, ?_, rfl⟩
      cases hsubject with
      | target target =>
          nofun
      | literal hliteral =>
          cases hliteral <;> nofun

def groupWithin : Nat → Parser Filter
  | 0 => Parser.tooDeep
  | depth + 1 => Parser.enclosed (Parser.nested depth)

theorem nested_eq (depth : Nat) :
    Parser.nested depth = Parser.condition (groupWithin depth) := by
  cases depth <;> rfl

theorem element_clause (group : Parser Filter) {tokens : List Token} (stop : Nat)
    (h : nextKind tokens ≠ some .openGroup) :
    Parser.element group ⟨tokens, stop⟩ =
      (do return Node.clause (← Parser.clause) : Parser Node) ⟨tokens, stop⟩ := by
  rw [Parser.element, run_bind_ok (run_get _), TokenStream.kind?_mk, if_neg h]

theorem element_group (group : Parser Filter) {tokens : List Token} (stop : Nat)
    (h : nextKind tokens = some .openGroup) :
    Parser.element group ⟨tokens, stop⟩ =
      (do return Node.group (← group) : Parser Node) ⟨tokens, stop⟩ := by
  rw [Parser.element, run_bind_ok (run_get _), TokenStream.kind?_mk, if_pos h]

theorem element_tooDeep {tokens : List Token} (stop : Nat)
    (h : nextKind tokens = some .openGroup) :
    Parser.element Parser.tooDeep ⟨tokens, stop⟩ =
      .error ⟨.nestingTooDeep Parser.maxDepth, (TokenStream.mk tokens stop).position⟩
        ⟨tokens, stop⟩ := by
  rw [element_group Parser.tooDeep stop h]
  rfl

theorem reads_clauseNode :
    Reads anyNext (do return Node.clause (← Parser.clause) : Parser Node)
      (fun list node => ∃ clause, DerivesClause list clause ∧ Node.clause clause = node) anyNext :=
  reads_clause.map Node.clause

/-- Where no group may be opened, an opening parenthesis ends all hope. -/
theorem reads_element_zero :
    Reads anyNext (Parser.element Parser.tooDeep) (NodesWithin 0) anyNext where
  accepts := by
    intro tokens node hlanguage rest _ stop
    rcases hlanguage with ⟨hderives, hdepth⟩
    generalize hlist : kinds tokens = list at hderives
    cases hderives with
    | clause hclause =>
        subst hlist
        rcases head_of_derivesClause hclause with ⟨kind, hkind, hhead⟩
        have hnext : nextKind (tokens ++ rest) ≠ some .openGroup := by
          rw [nextKind_of_head hhead rest]
          exact fun h => hkind (Option.some.inj h)
        rw [element_clause Parser.tooDeep stop hnext]
        exact reads_clauseNode.accepts ⟨_, hclause, rfl⟩ trivial stop
    | group _ =>
        exact absurd hdepth (Nat.not_succ_le_zero _)
  returns := by
    intro tokens stop node after _ h
    by_cases hnext : nextKind tokens = some .openGroup
    · rw [element_tooDeep stop hnext] at h
      cases h
    · rw [element_clause Parser.tooDeep stop hnext] at h
      rcases reads_clauseNode.returns trivial h with
        ⟨taken, left, htokens, hafter, ⟨clause, hclause, rfl⟩, _⟩
      exact ⟨taken, left, htokens, hafter, ⟨.clause hclause, Nat.le_refl 0⟩, trivial⟩
  refuses := by
    intro tokens stop e after _ h
    by_cases hnext : nextKind tokens = some .openGroup
    · rw [element_tooDeep stop hnext] at h
      cases h
      cases tokens with
      | nil =>
          cases hnext
      | cons token rest =>
          refine ⟨[], token :: rest, rfl, rfl, ⟨trivial, rfl⟩, ⟨_, _, nodesWithin_nil 0⟩, ?_⟩
          intro next hhead rest' stop'
          cases hhead
          have hnext' : nextKind (token :: rest') = some .openGroup := hnext
          exact ⟨_, _, element_tooDeep stop' hnext'⟩
    · rw [element_clause Parser.tooDeep stop hnext] at h
      rcases reads_clauseNode.refuses trivial h with ⟨taken, left, rfl, hafter, hrefusal⟩
      refine ⟨taken, left, rfl, hafter, hrefusal.after [] ?_ ?_⟩
      · intro list node hnode
        rcases hnode with ⟨clause, hclause, rfl⟩
        exact ⟨_, .clause hclause, Nat.le_refl 0⟩
      · intro token htoken rest stop' e' after' he'
        rw [← nextKind_append_of_head htoken rest] at hnext
        exact (element_clause Parser.tooDeep stop' hnext).trans he'

theorem reads_element_succ {depth : Nat}
    (hnested : Reads anyNext (Parser.nested depth) (FiltersWithin depth) filterEnd) :
    Reads anyNext (Parser.element (Parser.enclosed (Parser.nested depth)))
      (NodesWithin (depth + 1)) anyNext := by
  have hgroup := (reads_enclosed hnested (filtersWithin_inhabited depth)).map Node.group
  have hclause : Reads (fun next => next ≠ some .openGroup) _ _ anyNext :=
    reads_clauseNode.weaken fun _ _ => trivial
  refine (Reads.branch hgroup hclause ?_ ?_).congr ?_
  · intro list node hlanguage
    rcases hlanguage with ⟨_, ⟨inside, rfl, _⟩, _⟩
    rfl
  · intro list node hlanguage
    rcases hlanguage with ⟨clause, hclause, _⟩
    exact head_of_derivesClause hclause
  · intro list node
    constructor
    · intro hlanguage
      rcases hlanguage with ⟨_, ⟨inside, rfl, hinside, hdepth⟩, rfl⟩ | ⟨clause, hclause, rfl⟩
      · exact ⟨.group hinside, Nat.succ_le_succ hdepth⟩
      · exact ⟨.clause hclause, Nat.zero_le _⟩
    · intro hlanguage
      rcases hlanguage with ⟨hderives, hdepth⟩
      cases hderives with
      | clause hclause =>
          exact Or.inr ⟨_, hclause, rfl⟩
      | group hinside =>
          exact Or.inl ⟨_, ⟨_, rfl, hinside, Nat.le_of_succ_le_succ hdepth⟩, rfl⟩

/-- By induction on the depth: the readers of elements and of filters take turns. -/
theorem reads_nested (depth : Nat) :
    Reads anyNext (Parser.element (groupWithin depth)) (NodesWithin depth) anyNext ∧
      Reads anyNext (Parser.nested depth) (FiltersWithin depth) filterEnd := by
  induction depth with
  | zero =>
      exact ⟨reads_element_zero, (reads_condition reads_element_zero).congr joins_iff⟩
  | succ depth ih =>
      have helement := reads_element_succ ih.2
      exact ⟨helement, (reads_condition helement).congr joins_iff⟩

end Query
end RecordFilter
