import RecordFilter.Proofs.Query.Depth

/-!
# Queries put together

Two queries joined by a word, or a query in parentheses, spell the tokens of their parts with the
tokens of the glue between them.  Parsing then does with the texts what joining and grouping do
with the filters.
-/

namespace RecordFilter

namespace Filter

/-- The elements of two filters, with a conjunction in front of the second. -/
def follow (left : Filter) (conjunction : Conjunction) : Filter → Filter
  | single node => join left conjunction node
  | join right conjunction' node => join (left.follow conjunction right) conjunction' node

theorem elements_ne_nil (filter : Filter) : filter.elements ≠ [] := by
  cases filter <;> simp [elements]

theorem elements_follow (left : Filter) (conjunction : Conjunction) (right : Filter) :
    (left.follow conjunction right).elements =
      left.elements ++ right.elements.modifyHead fun element => (some conjunction, element.2) := by
  fun_induction follow left conjunction right with
  | case1 node =>
      rfl
  | case2 right conjunction' node ih =>
      rw [elements, ih, elements]
      cases hright : right.elements with
      | nil =>
          exact absurd hright (elements_ne_nil right)
      | cons first others =>
          simp

theorem depth_follow (left : Filter) (conjunction : Conjunction) (right : Filter) :
    (left.follow conjunction right).depth = max left.depth right.depth := by
  fun_induction follow left conjunction right with
  | case1 node =>
      rfl
  | case2 right conjunction' node ih =>
      rw [depth, ih, depth, Nat.max_assoc]

end Filter

namespace Query

/-!
# Parts of the result
-/

theorem DerivesFilter.follow {front back : List TokenKind} {left right : Filter}
    (hleft : DerivesFilter front left) (conjunction : Conjunction)
    (hright : DerivesFilter back right) :
    DerivesFilter (front ++ conjunction.kind :: back) (left.follow conjunction right) := by
  fun_induction Filter.follow left conjunction right generalizing back with
  | case1 node =>
      cases hright with
      | single hnode =>
          exact .join hleft (derivesConjunction_kind conjunction) hnode
  | case2 right conjunction' node ih =>
      cases hright with
      | join hright hconjunction hnode =>
          rw [← List.cons_append, ← List.append_assoc]
          exact .join (ih hright) hconjunction hnode

/-- Parentheses around the least query reach every depth that is allowed. -/
theorem exists_parse_of_depth {depth : Nat} (h : depth ≤ 128) :
    ∃ text filter, Filter.parse text = .ok filter ∧ filter.depth = depth := by
  have hspells : ∀ depth, ∃ text list filter, Spells text list [] ∧ DerivesFilter list filter ∧
      filter.depth = depth := by
    intro depth
    induction depth with
    | zero =>
        have hnil : Spells ['n', 'i', 'l'] [.nil] [] := .one (by decide) rfl
        have heq : Spells ['e', 'q'] [.operator .eq] [] := .one (by decide) rfl
        have hspace : ∀ text, Seam (' ' :: text) := seam_cons (by decide)
        exact ⟨_, _, _, hnil.append_trans (hspace _) (.blank (by decide)
          (heq.append_trans (hspace _) (.blank (by decide) hnil))),
          .single (.clause derivesClause_nil), rfl⟩
    | succ depth ih =>
        rcases ih with ⟨text, list, filter, hspells, hderives, hdepth⟩
        exact ⟨_, _, _, hspells.enclose, .single (.group hderives), congrArg Nat.succ hdepth⟩
  rcases hspells depth with ⟨text, list, filter, htext, hderives, hdepth⟩
  refine ⟨String.ofList text, filter, ?_, hdepth⟩
  rw [← String.toList_ofList (l := text)] at htext
  exact parse_of_spells htext hderives (by rw [hdepth]; exact h)

/-!
# Parsing what was put together
-/

/--
Joining two queries by a word joins their elements, and a query in parentheses becomes a group,
unless that would be one group too deep.
-/
theorem parse_composition {q₁ q₂ : String} {f₁ f₂ : Filter} (h₁ : Filter.parse q₁ = .ok f₁)
    (h₂ : Filter.parse q₂ = .ok f₂) (k : Conjunction) :
    (∃ f, Filter.parse (q₁ ++ " " ++ k.keyword ++ " " ++ q₂) = .ok f ∧
      f.elements = f₁.elements ++ f₂.elements.modifyHead fun element => (some k, element.2)) ∧
    (f₂.depth ≤ 127 →
      Filter.parse (q₁ ++ " " ++ k.keyword ++ " (" ++ q₂ ++ ")") = .ok (f₁.joinGroup k f₂) ∧
      Filter.parse ("(" ++ q₂ ++ ")") = .ok (.ofGroup f₂)) ∧
    (f₂.depth = 128 →
      (∃ position, Filter.parse (q₁ ++ " " ++ k.keyword ++ " (" ++ q₂ ++ ")") =
        .error ⟨.nestingTooDeep 128, position⟩) ∧
      ∃ position, Filter.parse ("(" ++ q₂ ++ ")") = .error ⟨.nestingTooDeep 128, position⟩) := by
  rcases spells_of_parse h₁ with ⟨list₁, hspells₁, hderives₁, hdepth₁⟩
  rcases spells_of_parse h₂ with ⟨list₂, hspells₂, hderives₂, hdepth₂⟩
  have hjoined : Spells (q₁ ++ " " ++ k.keyword ++ " " ++ q₂).toList
      (list₁ ++ k.kind :: list₂) [] := by
    simpa using hspells₁.conjoin k hspells₂
  have hgroup : Spells ("(" ++ q₂ ++ ")").toList (.openGroup :: list₂ ++ [.closeGroup]) [] := by
    simpa using hspells₂.enclose
  have hjoinedGroup : Spells (q₁ ++ " " ++ k.keyword ++ " (" ++ q₂ ++ ")").toList
      (list₁ ++ k.kind :: (.openGroup :: list₂ ++ [.closeGroup])) [] := by
    simpa using hspells₁.conjoin k hspells₂.enclose
  have hderivesGroup : DerivesFilter (.openGroup :: list₂ ++ [.closeGroup]) (.ofGroup f₂) :=
    .single (.group hderives₂)
  have hderivesJoined : DerivesFilter (list₁ ++ k.kind :: (.openGroup :: list₂ ++ [.closeGroup]))
      (f₁.joinGroup k f₂) :=
    .join hderives₁ (derivesConjunction_kind k) (.group hderives₂)
  have hgroupDepth : (Filter.ofGroup f₂).depth = f₂.depth + 1 := rfl
  have hjoinedDepth : (f₁.joinGroup k f₂).depth = max f₁.depth (f₂.depth + 1) := rfl
  have hmax : Parser.maxDepth = 128 := rfl
  refine ⟨⟨f₁.follow k f₂, ?_, Filter.elements_follow f₁ k f₂⟩, ?_, ?_⟩
  · apply parse_of_spells hjoined (hderives₁.follow k hderives₂)
    rw [Filter.depth_follow]
    exact Nat.max_le.mpr ⟨hdepth₁, hdepth₂⟩
  · intro hdepth
    exact ⟨parse_of_spells hjoinedGroup hderivesJoined (by omega),
      parse_of_spells hgroup hderivesGroup (by omega)⟩
  · intro hdepth
    exact ⟨parse_error_of_spells hjoinedGroup hderivesJoined (by omega),
      parse_error_of_spells hgroup hderivesGroup (by omega)⟩

theorem parse_composition_group_or_comparisons :
    (∃ f, Filter.parse ("(nil eq nil)" ++ " " ++ "or" ++ " " ++ "1 lt 2 and true neq nil") = .ok f ∧
      f.elements.map Prod.fst = [none, some .or, some .and]) ∧
    (∃ f, Filter.parse ("(" ++ "1 lt 2 and true neq nil" ++ ")") = .ok (.ofGroup f)) ∧
    ∃ q f, f.depth = 128 ∧ Filter.parse q = .ok f ∧
      ∃ position, Filter.parse ("(" ++ q ++ ")") = .error ⟨.nestingTooDeep 128, position⟩ := by
  have hgroup : Filter.parse "(nil eq nil)" = .ok (.ofGroup (.single (.clause
      (.complete (.literal .nil) .eq (.operand (.literal .nil)))))) := by
    have hlex : TokenStream.ofText "(nil eq nil)" = .ok ⟨[⟨.openGroup, 0⟩, ⟨.nil, 1⟩,
        ⟨.operator .eq, 5⟩, ⟨.nil, 8⟩, ⟨.closeGroup, 11⟩], 12⟩ := by rfl
    rw [parse_of_ofText hlex]
    rfl
  have hcomparisons : Filter.parse "1 lt 2 and true neq nil" = .ok (.join
      (.single (.clause (.complete (.literal (.number (.integer 1 (by decide)))) .lt
        (.operand (.literal (.number (.integer 2 (by decide)))))))) .and
      (.clause (.complete (.literal (.boolean true)) .neq (.operand (.literal .nil))))) := by
    have hlex : TokenStream.ofText "1 lt 2 and true neq nil" = .ok ⟨[
        ⟨.number (.integer 1 (by decide)), 0⟩, ⟨.operator .lt, 2⟩,
        ⟨.number (.integer 2 (by decide)), 5⟩, ⟨.and, 7⟩, ⟨.boolean true, 11⟩,
        ⟨.operator .neq, 16⟩, ⟨.nil, 20⟩], 23⟩ := by rfl
    rw [parse_of_ofText hlex]
    rfl
  rcases exists_parse_of_depth (Nat.le_refl 128) with ⟨q, f, hparse, hdepth⟩
  have hsmall := parse_composition hgroup hcomparisons .or
  have hdeep := parse_composition hgroup hparse .or
  rcases hsmall.1 with ⟨joined, hjoined, helements⟩
  refine ⟨⟨joined, hjoined, ?_⟩, ⟨_, (hsmall.2.1 (by decide)).2⟩, q, f, hdepth, hparse,
    (hdeep.2.2 hdepth).2⟩
  rw [helements]
  rfl

end Query
end RecordFilter
