import RecordFilter.Proofs.Query.Filters

/-!
# Parsing token streams

A stream is parsed exactly if its kinds derive a filter in which groups nest at most 128 deep, and
then that filter is the result.  A stream that is refused is refused at the first token with which
no accepted stream begins, or at its end if there is no such token.
-/

namespace RecordFilter
namespace Query

/-!
# Whole streams
-/

/-- A filter has been read and nothing may follow. -/
def finish (filter : Filter) : Parser Filter := do
  if (← get).isAtEnd then return filter else Parser.refuse .conjunctionOrEnd

def noneNext : Lookahead :=
  fun next => next = none

theorem reads_finish (filter : Filter) :
    Reads filterEnd (finish filter) (fun list result => list = [] ∧ filter = result) noneNext where
  accepts := by
    intro tokens result hlanguage rest hnone stop
    rcases hlanguage with ⟨hkinds, rfl⟩
    rw [kinds_eq_nil hkinds]
    cases rest with
    | nil =>
        rfl
    | cons token rest =>
        cases hnone
  returns := by
    intro tokens stop result after _ h
    cases tokens with
    | nil =>
        cases h
        exact ⟨[], [], rfl, rfl, ⟨rfl, rfl⟩, rfl⟩
    | cons token rest =>
        cases h
  refuses := by
    intro tokens stop e after _ h
    cases tokens with
    | nil =>
        cases h
    | cons token rest =>
        cases h
        refine ⟨[], token :: rest, rfl, rfl, ⟨trivial, rfl⟩, ⟨[], filter, rfl, rfl⟩, ?_⟩
        intro next _ rest' stop'
        exact ⟨_, _, rfl⟩

theorem reads_filter :
    Reads anyNext Parser.filter (FiltersWithin Parser.maxDepth) noneNext := by
  refine ((reads_nested Parser.maxDepth).2.bind reads_finish ?_ ?_).congr ?_
  · intro filter tokens result rest hlanguage hnone
    rcases hlanguage with ⟨hkinds, _⟩
    rw [kinds_eq_nil hkinds]
    exact Or.inl hnone
  · intro filter
    exact ⟨[], filter, rfl, rfl⟩
  · intro list filter
    constructor
    · intro hlanguage
      rcases hlanguage with ⟨front, _, _, rfl, hfront, rfl, rfl⟩
      rw [List.append_nil]
      exact hfront
    · intro h
      exact ⟨list, [], filter, (List.append_nil list).symm, h, rfl, rfl⟩

theorem parse_eq_ok_iff {tokens : List Token} {stop : Nat} {filter : Filter} :
    (TokenStream.mk tokens stop).parse.1 = .ok filter ↔
      DerivesFilter (kinds tokens) filter ∧ filter.depth ≤ Parser.maxDepth := by
  constructor
  · intro h
    unfold TokenStream.parse at h
    cases hrun : Parser.filter ⟨tokens, stop⟩ with
    | error e after =>
        rw [hrun] at h
        cases h
    | ok result after =>
        rw [hrun] at h
        cases h
        rcases reads_filter.returns trivial hrun with ⟨taken, left, rfl, _, hlanguage, hnone⟩
        cases left with
        | nil =>
            rw [List.append_nil]
            exact hlanguage
        | cons token rest =>
            cases hnone
  · intro h
    have hrun : Parser.filter ⟨tokens, stop⟩ = .ok filter ⟨[], stop⟩ := by
      have hnone : noneNext (nextKind []) := rfl
      have haccepts := reads_filter.accepts h hnone stop
      rwa [List.append_nil] at haccepts
    unfold TokenStream.parse
    rw [hrun]

/-- Positions tell nothing about the result, so any tokens of the right kinds will do. -/
def tokensOf (list : List TokenKind) : List Token :=
  list.map fun kind => ⟨kind, 0⟩

@[simp] theorem kinds_tokensOf (list : List TokenKind) : kinds (tokensOf list) = list := by
  simp [kinds, tokensOf, Function.comp_def]

/-- A reader that is given depth enough reads both, and it returns one result. -/
theorem derivesFilter_unique {list : List TokenKind} {f g : Filter}
    (hf : DerivesFilter list f) (hg : DerivesFilter list g) : f = g := by
  have hreads := (reads_nested (max f.depth g.depth)).2
  have hend : filterEnd (nextKind []) := Or.inl rfl
  have haccepts : ∀ filter, FiltersWithin (max f.depth g.depth) list filter →
      Parser.nested (max f.depth g.depth) ⟨tokensOf list ++ [], 0⟩ = .ok filter ⟨[], 0⟩ := by
    intro filter h
    rw [← kinds_tokensOf list] at h
    exact hreads.accepts h hend 0
  have hruns := (haccepts f ⟨hf, Nat.le_max_left _ _⟩).symm.trans
    (haccepts g ⟨hg, Nat.le_max_right _ _⟩)
  injection hruns

/--
The parser accepts what the grammar derives with at most 128 groups open at once, and builds the
filter that the grammar gives, of which there is one.
-/
theorem parse_ok_iff_derives (tokens : List Token) (stop : Nat) :
    (∀ filter, (TokenStream.mk tokens stop).parse.1 = .ok filter ↔
      DerivesFilter (kinds tokens) filter ∧ filter.depth ≤ Parser.maxDepth) ∧
    ∀ f g, DerivesFilter (kinds tokens) f → DerivesFilter (kinds tokens) g → f = g :=
  ⟨fun _ => parse_eq_ok_iff, fun _ _ => derivesFilter_unique⟩

/-!
# The first token that ends all hope
-/

def Accepted (tokens : List Token) : Prop :=
  ∃ stop filter, (TokenStream.mk tokens stop).parse.1 = .ok filter

theorem accepted_of_viable {tokens : List Token}
    (h : Viable (FiltersWithin Parser.maxDepth) (kinds tokens)) :
    ∃ more, Accepted (tokens ++ more) := by
  rcases h with ⟨more, filter, hlanguage⟩
  refine ⟨tokensOf more, 0, filter, parse_eq_ok_iff.mpr ?_⟩
  rw [kinds_append, kinds_tokensOf]
  exact hlanguage

theorem not_accepted_of_fails {tokens : List Token}
    (h : ∀ stop, Fails Parser.filter tokens stop) : ¬Accepted tokens := by
  intro haccepted
  rcases haccepted with ⟨stop, filter, hparse⟩
  rcases h stop with ⟨e, after, hrun⟩
  unfold TokenStream.parse at hparse
  rw [hrun] at hparse
  cases hparse

/-- A refusal of a stream, said of its tokens alone. -/
structure RefusedAt (e : QueryError) (tokens : List Token) (index : Nat) : Prop where
  inside : index < tokens.length
  position : e.position = tokens[index].position
  extensible : ∃ more, Accepted (tokens.take index ++ more)
  hopeless : ∀ more, ¬Accepted (tokens.take (index + 1) ++ more)

theorem parse_error_cases {tokens : List Token} {stop : Nat} {e : QueryError}
    (h : (TokenStream.mk tokens stop).parse.1 = .error e) :
    (e.fault.OfToken ∧ ∃ index, RefusedAt e tokens index) ∨
      (e.fault.OfEnd ∧ (∃ more, Accepted (tokens ++ more)) ∧ ¬Accepted tokens) := by
  have hrejected : ¬Accepted tokens := by
    intro haccepted
    rcases haccepted with ⟨stop', filter, hparse⟩
    rw [parse_eq_ok_iff.mpr (parse_eq_ok_iff.mp hparse)] at h
    cases h
  unfold TokenStream.parse at h
  cases hrun : Parser.filter ⟨tokens, stop⟩ with
  | ok filter after =>
      rw [hrun] at h
      cases h
  | error e' after =>
      rw [hrun] at h
      cases h
      rcases reads_filter.refuses trivial hrun with ⟨taken, left, rfl, _, hrefusal⟩
      have hextensible := accepted_of_viable hrefusal.viable
      cases left with
      | nil =>
          rw [List.append_nil] at hrejected ⊢
          exact Or.inr ⟨hrefusal.blames, hextensible, hrejected⟩
      | cons token rest =>
          refine Or.inl ⟨hrefusal.blames.1, taken.length, by simp, ?_, ?_, ?_⟩
          · rw [hrefusal.blames.2]
            simp
          · rw [List.take_left]
            exact hextensible
          · intro more
            have htake : (taken ++ token :: rest).take (taken.length + 1) = taken ++ [token] := by
              rw [List.take_length_add_append]
              rfl
            rw [htake, List.append_assoc]
            exact not_accepted_of_fails (hrefusal.hopeless token rfl more)

theorem parse_of_ofText {text : String} {stream : TokenStream}
    (h : TokenStream.ofText text = .ok stream) : Filter.parse text = stream.parse.1 := by
  rw [Filter.parse, h]
  rfl

/--
A text that lexes and does not parse is refused at the first token with which no accepted list
begins; if all its tokens begin an accepted list, it is refused for its end.
-/
theorem parse_error_at_first_hopeless {text : String} {tokens : List Token} {stop : Nat}
    {e : QueryError} (hlex : TokenStream.ofText text = .ok ⟨tokens, stop⟩)
    (hparse : Filter.parse text = .error e) :
    (e.fault.OfToken ∨ e.fault.OfEnd) ∧
    (e.fault.OfToken → ∃ index, RefusedAt e tokens index) ∧
    (e.fault.OfEnd → (∃ more, Accepted (tokens ++ more)) ∧ ¬Accepted tokens) := by
  rw [parse_of_ofText hlex] at hparse
  have hdisjoint : ¬(e.fault.OfToken ∧ e.fault.OfEnd) := by
    intro hboth
    rcases hboth with ⟨htoken, hend⟩
    cases hfault : e.fault <;> rw [hfault] at htoken hend <;> first | exact htoken | exact hend
  rcases parse_error_cases hparse with ⟨htoken, hindex⟩ | ⟨hend, hrest⟩
  · exact ⟨Or.inl htoken, fun _ => hindex, fun hend => absurd ⟨htoken, hend⟩ hdisjoint⟩
  · exact ⟨Or.inr hend, fun htoken => absurd ⟨htoken, hend⟩ hdisjoint, fun _ => hrest⟩

theorem parse_error_at_first_hopeless_in_group :
    Filter.parse "(nil gt ) or" = .error ⟨.unexpectedToken .comparand .closeGroup, 8⟩ ∧
    ∃ index, RefusedAt ⟨.unexpectedToken .comparand .closeGroup, 8⟩ [⟨.openGroup, 0⟩, ⟨.nil, 1⟩,
      ⟨.operator .gt, 5⟩, ⟨.closeGroup, 8⟩, ⟨.or, 10⟩] index := by
  have hlex : TokenStream.ofText "(nil gt ) or" = .ok ⟨[⟨.openGroup, 0⟩, ⟨.nil, 1⟩,
      ⟨.operator .gt, 5⟩, ⟨.closeGroup, 8⟩, ⟨.or, 10⟩], 12⟩ := by rfl
  have hparse : Filter.parse "(nil gt ) or" =
      .error ⟨.unexpectedToken .comparand .closeGroup, 8⟩ := by
    rw [parse_of_ofText hlex]
    rfl
  exact ⟨hparse, (parse_error_at_first_hopeless hlex hparse).2.1 trivial⟩

end Query
end RecordFilter
