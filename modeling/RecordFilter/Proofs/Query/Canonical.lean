import RecordFilter.Proofs.Filter.Reread

/-!
# Canonical text derives its filter

The tokens of a canonical text derive, by the grammar, the filter that was printed, with every
number read again.  The same goes for other texts of a filter that differ from the canonical one
in how targets are written, as long as each is read as the target that it was written for.
-/

namespace RecordFilter

/-!
# Texts with other targets
-/

namespace Operand

def written (write : Target → List Char) : Operand → List Char
  | target t => write t
  | literal value => value.text .plain

theorem text_plain (operand : Operand) :
    operand.text .plain = operand.written (Target.text .plain) := by
  cases operand <;> rfl

end Operand

namespace Object

def written (write : Target → List Char) : Object → List Char
  | operand o => o.written write
  | object => object.text .plain

theorem text_plain (object : Object) :
    object.text .plain = object.written (Target.text .plain) := by
  cases object with
  | operand o =>
      exact o.text_plain
  | array _ | range _ | pattern _ =>
      rfl

end Object

namespace Clause

def written (write : Target → List Char) : Clause → List Char
  | started subject => subject.written write
  | selected subject operator => subject.written write ++ ' ' :: operator.keyword.toList
  | complete subject operator object =>
      subject.written write ++ ' ' :: (operator.keyword.toList ++ ' ' :: object.written write)

theorem text_plain (clause : Clause) :
    clause.text .plain = clause.written (Target.text .plain) := by
  cases clause <;> simp [text, written, Operand.text_plain, Object.text_plain, Style.space]

/-- Complete, with an object of the operator's family, and without the root pointer. -/
inductive Printable : Clause → Prop where
  | complete {subject : Operand} {operator : Operator} {object : Object} :
      object.family = operator.family → subject.isRoot = false → object.isRoot = false →
      Printable (.complete subject operator object)

end Clause

mutual

def Node.written (write : Target → List Char) : Node → List Char
  | .clause clause => clause.written write
  | .group filter => '(' :: (filter.written write ++ [')'])

/-- The canonical text of a filter, but with the targets as they are given. -/
def Filter.written (write : Target → List Char) : Filter → List Char
  | .single node => node.written write
  | .join left conjunction node =>
      left.written write ++ ' ' :: (conjunction.keyword.toList ++ ' ' :: node.written write)

end

mutual

theorem Node.text_plain : ∀ node : Node, node.text .plain = node.written (Target.text .plain)
  | .clause clause => clause.text_plain
  | .group filter => by
      simp [Node.text, Node.written, Filter.text_plain filter]

theorem Filter.text_plain : ∀ filter : Filter,
    filter.text .plain = filter.written (Target.text .plain)
  | .single node => Node.text_plain node
  | .join left conjunction node => by
      simp [Filter.text, Filter.written, Filter.text_plain left, Node.text_plain node, Style.space]

end

namespace Query

/-!
# Literals and operands
-/

theorem literal_derives {value : Literal} (h : ∀ n ∈ value.numbers, n.Legible) :
    ∃ kind, Spells (value.text .plain) [kind] [] ∧ DerivesLiteral kind value.reread := by
  cases value with
  | nil =>
      exact ⟨.nil, spells_nil, .nil⟩
  | boolean b =>
      exact ⟨.boolean b, spells_boolean b, .boolean b⟩
  | number n =>
      exact ⟨.number n.reread, spells_number (h n List.mem_cons_self).read_text, .number n.reread⟩
  | string s =>
      exact ⟨.string s, spells_string s, .string s⟩

theorem bound_derives {bound : Bound} (h : ∀ n ∈ bound.toLiteral.numbers, n.Legible) :
    ∃ kind, Spells (bound.toLiteral.text .plain) [kind] [] ∧ DerivesBound kind bound.reread := by
  cases bound with
  | unbounded =>
      exact ⟨.nil, spells_nil, .nil⟩
  | number n =>
      exact ⟨.number n.reread, spells_number (h n List.mem_cons_self).read_text, .number n.reread⟩
  | string s =>
      exact ⟨.string s, spells_string s, .string s⟩

/-- The text that is written for the target is read as the target. -/
def Spelled (write : Target → List Char) (t : Target) : Prop :=
  Spells (write t) [.target t] []

section Written

variable {write : Target → List Char}

theorem operand_derives {operand : Operand} (htargets : ∀ t ∈ operand.targets, Spelled write t)
    (h : ∀ n ∈ operand.numbers, n.Legible) :
    ∃ kind, Spells (operand.written write) [kind] [] ∧ DerivesOperand kind operand.reread := by
  cases operand with
  | target t =>
      exact ⟨.target t, htargets t List.mem_cons_self, .target t⟩
  | literal value =>
      rcases literal_derives h with ⟨kind, hspells, hderives⟩
      exact ⟨kind, hspells, .literal hderives⟩

/-!
# Objects
-/

theorem items_derive {values : List Literal} (hne : values ≠ [])
    (h : ∀ n ∈ values.flatMap Literal.numbers, n.Legible) :
    ∃ list, Spells (Literal.listText .plain values) list [] ∧
      DerivesItems list (values.map Literal.reread) := by
  induction values with
  | nil =>
      exact absurd rfl hne
  | cons item rest ih =>
      rw [List.flatMap_cons] at h
      have hitem := literal_derives fun n hn => h n (List.mem_append_left _ hn)
      rcases hitem with ⟨kind, hspells, hderives⟩
      cases rest with
      | nil =>
          exact ⟨[kind], hspells, .last hderives⟩
      | cons second others =>
          have hrest := ih (List.cons_ne_nil _ _) fun n hn => h n (List.mem_append_right _ hn)
          rcases hrest with ⟨list, hspellsRest, hderivesRest⟩
          exact ⟨_, hspells.comma hspellsRest, .more hderives hderivesRest⟩

theorem object_derives {object : Object} (htargets : ∀ t ∈ object.targets, Spelled write t)
    (h : ∀ n ∈ object.numbers, n.Legible) :
    ∃ list, Spells (object.written write) list [] ∧
      DerivesObject object.family list object.reread := by
  cases object with
  | operand o =>
      rcases operand_derives htargets h with ⟨kind, hspells, hderives⟩
      exact ⟨[kind], hspells, .operand hderives⟩
  | array items =>
      by_cases hempty : items = []
      · rw [hempty]
        exact ⟨_, (Spells.done []).bracket, .emptyArray⟩
      · rcases items_derive hempty h with ⟨list, hspells, hderives⟩
        exact ⟨_, hspells.bracket, .array hderives⟩
  | range r =>
      have hlower := bound_derives fun n hn => h n (List.mem_append_left _ hn)
      have hupper := bound_derives fun n hn => h n (List.mem_append_right _ hn)
      rcases hlower with ⟨kind, hspells, hderives⟩
      rcases hupper with ⟨kind', hspells', hderives'⟩
      exact ⟨_, hspells.comma hspells', .range hderives hderives'⟩
  | pattern p =>
      exact ⟨_, spells_string p.raw, .pattern p.raw⟩

/-!
# Clauses and filters
-/

theorem clause_derives {clause : Clause} (hprintable : clause.Printable)
    (htargets : ∀ t ∈ clause.targets, Spelled write t) (h : ∀ n ∈ clause.numbers, n.Legible) :
    ∃ list, Spells (clause.written write) list [] ∧ DerivesClause list clause.reread := by
  cases hprintable with
  | complete hfamily _ _ =>
      rw [Clause.targets_complete] at htargets
      rw [Clause.numbers_complete] at h
      have hsubject := operand_derives (fun t ht => htargets t (List.mem_append_left _ ht))
        fun n hn => h n (List.mem_append_left _ hn)
      have hobject := object_derives (fun t ht => htargets t (List.mem_append_right _ ht))
        fun n hn => h n (List.mem_append_right _ hn)
      rcases hsubject with ⟨kind, hspells, hderives⟩
      rcases hobject with ⟨list, hspells', hderives'⟩
      rw [hfamily] at hderives'
      exact ⟨_, hspells.space ((spells_operator _).space hspells'), .clause hderives hderives'⟩

/-- What a filter needs so that the text with the targets as written can be read. -/
def Writable (write : Target → List Char) (clauses : List Clause) : Prop :=
  ∀ clause ∈ clauses, clause.Printable ∧ (∀ t ∈ clause.targets, Spelled write t) ∧
    ∀ n ∈ clause.numbers, n.Legible

theorem writable_append {front back : List Clause} :
    Writable write (front ++ back) ↔ Writable write front ∧ Writable write back :=
  List.forall_mem_append

mutual

theorem node_derives : ∀ (node : Node), Writable write node.clauses →
    ∃ list, Spells (node.written write) list [] ∧ DerivesNode list node.reread
  | .clause clause, h => by
      have hclause := h clause List.mem_cons_self
      rcases clause_derives hclause.1 hclause.2.1 hclause.2.2 with ⟨list, hspells, hderives⟩
      exact ⟨list, hspells, .clause hderives⟩
  | .group filter, h => by
      rcases filter_derives_reread filter h with ⟨list, hspells, hderives⟩
      exact ⟨_, hspells.enclose, .group hderives⟩

theorem filter_derives_reread : ∀ (filter : Filter), Writable write filter.clauses →
    ∃ list, Spells (filter.written write) list [] ∧ DerivesFilter list filter.reread
  | .single node, h => by
      rcases node_derives node h with ⟨list, hspells, hderives⟩
      exact ⟨list, hspells, .single hderives⟩
  | .join left conjunction node, h => by
      rcases writable_append.mp h with ⟨hleft, hnode⟩
      rcases filter_derives_reread left hleft with ⟨list, hspells, hderives⟩
      rcases node_derives node hnode with ⟨list', hspells', hderives'⟩
      exact ⟨_, hspells.conjoin conjunction hspells',
        .join hderives (derivesConjunction_kind conjunction) hderives'⟩

end

end Written

/-!
# Canonical texts
-/

theorem not_isRoot_of_printable {clauses : List Clause}
    (h : ∀ clause ∈ clauses, clause.Printable) :
    ∀ t ∈ clauses.flatMap Clause.targets, t.isRoot = false := by
  rw [List.forall_mem_flatMap]
  intro clause hclause
  cases h clause hclause with
  | complete _ hsubject hobject =>
      rw [Clause.targets_complete, List.forall_mem_append]
      exact ⟨Operand.isRoot_eq_false_iff.mp hsubject, Object.isRoot_eq_false_iff.mp hobject⟩

/-- Nothing but targets and numbers can keep a printable filter from being read. -/
theorem writable_iff {write : Target → List Char} {filter : Filter}
    (hprintable : ∀ clause ∈ filter.clauses, clause.Printable) :
    Writable write filter.clauses ↔ (∀ t ∈ filter.targets, Spelled write t) ∧ filter.Legible := by
  unfold Filter.targets Filter.Legible Filter.numbers
  rw [List.forall_mem_flatMap, List.forall_mem_flatMap]
  constructor
  · intro h
    exact ⟨fun clause hclause => (h clause hclause).2.1,
      fun clause hclause => (h clause hclause).2.2⟩
  · intro h clause hclause
    exact ⟨hprintable clause hclause, h.1 clause hclause, h.2 clause hclause⟩

theorem writable_plain_iff {filter : Filter}
    (hprintable : ∀ clause ∈ filter.clauses, clause.Printable) :
    Writable (Target.text .plain) filter.clauses ↔ filter.Legible := by
  rw [writable_iff hprintable]
  exact and_iff_right fun t ht => spells_target (not_isRoot_of_printable hprintable t ht) .plain

/-- What the clauses of a filter need so that its canonical text can be read. -/
def Restorable (clauses : List Clause) : Prop :=
  ∀ clause ∈ clauses, clause.Printable ∧ ∀ n ∈ clause.numbers, n.ReadsBack

theorem filter_derives (filter : Filter) (h : Restorable filter.clauses) :
    ∃ list filter', Spells (filter.text .plain) list [] ∧ DerivesFilter list filter' ∧
      (filter' == filter) = true ∧ filter'.depth = filter.depth := by
  have hlegible : filter.Legible := by
    unfold Filter.Legible Filter.numbers
    rw [List.forall_mem_flatMap]
    exact fun clause hclause n hn => (readsBack_iff_reread.mp ((h clause hclause).2 n hn)).1
  have hwritable : Writable (Target.text .plain) filter.clauses :=
    (writable_plain_iff fun clause hclause => (h clause hclause).1).mpr hlegible
  have hreread : filter.reread = filter :=
    Filter.reread_eq_of_clauses fun clause hclause =>
      Clause.reread_eq_self fun n hn => (readsBack_iff_reread.mp ((h clause hclause).2 n hn)).2
  rcases filter_derives_reread filter hwritable with ⟨list, hspells, hderives⟩
  rw [hreread] at hderives
  rw [Filter.text_plain]
  exact ⟨list, filter, hspells, hderives, filter.same_self, rfl⟩

end Query
end RecordFilter
