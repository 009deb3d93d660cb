import RecordFilter.Proofs.Query.Contents
import RecordFilter.Proofs.Query.Parsing
import RecordFilter.Proofs.Query.Spelling

/-!
# Groups that nest too deep

A list that derives a filter is refused for one reason only, which is its depth.  The refusal
comes at the first group that is opened where none may be, whatever stands behind it.
-/

namespace RecordFilter
namespace Query

/-!
# The reason of the refusal
-/

def FailsDeep {α : Type} (reader : Parser α) (tokens : List Token) : Prop :=
  ∀ stop, ∃ position after,
    reader ⟨tokens, stop⟩ = .error ⟨.nestingTooDeep Parser.maxDepth, position⟩ after

section Steps

variable {α β : Type} {first : Parser α} {second : α → Parser β} {tokens : List Token}

theorem FailsDeep.bind (h : FailsDeep first tokens) : FailsDeep (first >>= second) tokens := by
  intro stop
  rcases h stop with ⟨position, after, hrun⟩
  exact ⟨position, after, run_bind_error hrun⟩

theorem FailsDeep.enclosed {inner : Parser Filter} {token : Token} (h : FailsDeep inner tokens) :
    FailsDeep (Parser.enclosed inner) (token :: tokens) := by
  intro stop
  rcases h stop with ⟨position, after, hrun⟩
  refine ⟨position, after, ?_⟩
  have hskip : Parser.skip ⟨token :: tokens, stop⟩ = .ok () ⟨tokens, stop⟩ := rfl
  rw [Parser.enclosed, run_bind_ok (run_get _), run_bind_ok hskip, run_bind_error hrun]

theorem FailsDeep.element {group : Parser Filter} (hopen : nextKind tokens = some .openGroup)
    (h : FailsDeep group tokens) : FailsDeep (Parser.element group) tokens := by
  intro stop
  rcases h stop with ⟨position, after, hrun⟩
  exact ⟨position, after, by rw [element_group group stop hopen, run_bind_error hrun]⟩

theorem failsDeep_tooDeep (tokens : List Token) : FailsDeep Parser.tooDeep tokens :=
  fun _ => ⟨_, _, rfl⟩

end Steps

/-!
# Filters and their elements
-/

/-- The elements in front of the first that is too deep are read, and that one is not. -/
theorem condition_tooDeep {depth : Nat} {group : Parser Filter}
    (helement : Reads anyNext (Parser.element group) (NodesWithin depth) anyNext)
    (hdeep : ∀ {tokens node}, DerivesNode (kinds tokens) node → depth < node.depth →
      ∀ rest, FailsDeep (Parser.element group) (tokens ++ rest)) :
    ∀ {list : List TokenKind} {filter : Filter}, DerivesFilter list filter →
      depth < filter.depth → ∀ {tokens : List Token}, kinds tokens = list →
      ∀ rest, FailsDeep (Parser.condition group) (tokens ++ rest)
  | _, _, .single hnode, hdepth, tokens, hkinds, rest => by
      subst hkinds
      rw [condition_eq]
      exact (hdeep hnode hdepth rest).bind
  | _, _, @DerivesFilter.join _ _ _ left _ node hleft hconjunction hnode, hdepth, tokens, hkinds,
      rest => by
      rcases kinds_eq_append hkinds with ⟨front, right, rfl, hfront, hright⟩
      rw [List.append_assoc]
      by_cases hleftDepth : depth < left.depth
      · exact condition_tooDeep helement hdeep hleft hleftDepth hfront (right ++ rest)
      · have hjoins := joins_of_derivesFilter hleft (Nat.le_of_not_lt hleftDepth)
        have hnodeDepth : depth < node.depth := by
          simp only [Filter.depth] at hdepth
          omega
        rcases kinds_eq_cons hright with ⟨token, back, rfl, rfl, rfl⟩
        intro stop
        rcases hdeep hnode hnodeDepth rest stop with ⟨position, after, hrun⟩
        refine ⟨position, after, ?_⟩
        rw [condition_run helement hjoins hfront, List.cons_append,
          loop_next helement left hconjunction, run_bind_error hrun]

theorem element_failsDeep {depth : Nat} {tokens : List Token} {node : Node}
    (hderives : DerivesNode (kinds tokens) node) (hdepth : depth < node.depth) (rest : List Token)
    (hgroup : ∀ {filter token inside}, DerivesFilter (kinds inside) filter →
      depth ≤ filter.depth → ∀ rest, FailsDeep (groupWithin depth) (token :: inside ++ rest)) :
    FailsDeep (Parser.element (groupWithin depth)) (tokens ++ rest) := by
  generalize hkinds : kinds tokens = list at hderives
  cases hderives with
  | clause _ =>
      cases hdepth
  | group hinside =>
      rcases kinds_eq_cons hkinds with ⟨token, right, rfl, hopen, hright⟩
      rcases kinds_eq_append hright with ⟨inside, close, rfl, rfl, _⟩
      have hnext : nextKind (token :: (inside ++ close) ++ rest) = some .openGroup := by
        rw [← hopen]
        rfl
      apply FailsDeep.element hnext
      rw [← List.cons_append, List.append_assoc]
      exact hgroup hinside (Nat.le_of_lt_succ hdepth) (close ++ rest)

/-- By induction on the depth that is left: a group takes one away. -/
theorem nested_failsDeep {depth : Nat} {tokens : List Token} {filter : Filter}
    (hderives : DerivesFilter (kinds tokens) filter) (hdepth : depth < filter.depth)
    (rest : List Token) : FailsDeep (Parser.nested depth) (tokens ++ rest) := by
  induction depth generalizing tokens filter rest with
  | zero =>
      rw [nested_eq]
      refine condition_tooDeep (reads_nested 0).1 ?_ hderives hdepth rfl rest
      intro tokens node hnode hnodeDepth rest
      exact element_failsDeep hnode hnodeDepth rest fun _ _ _ => failsDeep_tooDeep _
  | succ depth ih =>
      rw [nested_eq]
      refine condition_tooDeep (reads_nested (depth + 1)).1 ?_ hderives hdepth rfl rest
      intro tokens node hnode hnodeDepth rest
      exact element_failsDeep hnode hnodeDepth rest fun hinside hinsideDepth rest =>
        (ih hinside hinsideDepth rest).enclosed

/-!
# Whole texts
-/

theorem parse_tooDeep {tokens : List Token} {filter : Filter}
    (hderives : DerivesFilter (kinds tokens) filter) (hdepth : Parser.maxDepth < filter.depth)
    (stop : Nat) :
    ∃ position, (TokenStream.mk tokens stop).parse.1 =
      .error ⟨.nestingTooDeep Parser.maxDepth, position⟩ := by
  have hfails : FailsDeep Parser.filter (tokens ++ []) :=
    (nested_failsDeep hderives hdepth []).bind
  rw [List.append_nil] at hfails
  rcases hfails stop with ⟨position, after, hrun⟩
  refine ⟨position, ?_⟩
  unfold TokenStream.parse
  rw [hrun]

theorem parse_of_tokenize {text : String} {tokens : List Token}
    (h : tokenize text.toList = .ok tokens) :
    Filter.parse text = (TokenStream.mk tokens text.length).parse.1 := by
  apply parse_of_ofText
  rw [TokenStream.ofText, h]
  rfl

theorem parse_of_spells {text : String} {list : List TokenKind} {filter : Filter}
    (hspells : Spells text.toList list []) (hderives : DerivesFilter list filter)
    (hdepth : filter.depth ≤ Parser.maxDepth) : Filter.parse text = .ok filter := by
  rcases tokenize_of_spells hspells with ⟨tokens, htokens, rfl⟩
  rw [parse_of_tokenize htokens]
  exact parse_eq_ok_iff.mpr ⟨hderives, hdepth⟩

theorem parse_error_of_spells {text : String} {list : List TokenKind} {filter : Filter}
    (hspells : Spells text.toList list []) (hderives : DerivesFilter list filter)
    (hdepth : Parser.maxDepth < filter.depth) :
    ∃ position, Filter.parse text = .error ⟨.nestingTooDeep Parser.maxDepth, position⟩ := by
  rcases tokenize_of_spells hspells with ⟨tokens, htokens, rfl⟩
  rw [parse_of_tokenize htokens]
  exact parse_tooDeep hderives hdepth text.length

theorem spells_of_parse {text : String} {filter : Filter} (h : Filter.parse text = .ok filter) :
    ∃ list, Spells text.toList list [] ∧ DerivesFilter list filter ∧
      filter.depth ≤ Parser.maxDepth := by
  cases htokens : tokenize text.toList with
  | error e =>
      rw [Filter.parse, TokenStream.ofText, htokens] at h
      cases h
  | ok tokens =>
      rw [parse_of_tokenize htokens] at h
      rcases parse_eq_ok_iff.mp h with ⟨hderives, hdepth⟩
      exact ⟨kinds tokens, spells_of_tokenize htokens, hderives, hdepth⟩

end Query
end RecordFilter
