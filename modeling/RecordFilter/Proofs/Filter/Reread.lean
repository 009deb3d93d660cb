import RecordFilter.Proofs.Filter.Equality
import RecordFilter.Proofs.Query.NumberText

/-!
# Numbers read again

The text of a number need not be read as the same number, nor be read at all.  What a filter
becomes when each of its numbers is replaced by what its text is read as, tells whether the filter
gets through its text unharmed.  Only floats can be harmed, and zeros are not.
-/

namespace RecordFilter

/-!
# Numbers
-/

namespace Number

/-- The text of the number is one token, whose number is equal to it. -/
def ReadsBack (n : Number) : Prop :=
  ∃ m position, Query.tokenize n.text = .ok [⟨.number m, position⟩] ∧ (m == n) = true

/-- The text of the number is read as a number. -/
def Legible (n : Number) : Prop :=
  ∃ m, read n.text = .ok (m, [])

/-- The number that the text is read as; where nothing is read the number stays. -/
def reread (n : Number) : Number :=
  match read n.text with
  | .ok (m, []) => m
  | _ => n

theorem reread_of_read {n m : Number} (h : read n.text = .ok (m, [])) : n.reread = m := by
  unfold reread
  rw [h]

theorem Legible.read_text {n : Number} (h : n.Legible) : read n.text = .ok (n.reread, []) := by
  rcases h with ⟨m, hread⟩
  rw [reread_of_read hread]
  exact hread

theorem zero_of_isZero {x : Double} (h : x.isZero = true) : x = Double.zero x.negative := by
  rcases x with ⟨negative, ⟨mantissa, exponent⟩, hdouble⟩
  have hmantissa : mantissa = 0 := eq_of_beq h
  have hexponent : exponent = -1074 := by
    rcases hdouble with ⟨_, _, _, hnormal | hexponent⟩
    · have hnone : Binary.leastNormal ≤ mantissa := hnormal
      rw [hmantissa] at hnone
      exact absurd hnone (by decide)
    · exact hexponent
  subst hmantissa hexponent
  rfl

theorem read_zero (negative : Bool) :
    read (float (Double.zero negative)).text = .ok (float (Double.zero negative), []) := by
  cases negative <;> decide +kernel

/-- Data equality confuses the two zeros, but these are read as they are written. -/
theorem eq_or_reread {m n : Number} (h : (m == n) = true) : m = n ∨ n.reread = n := by
  rcases eq_or_isZero h with rfl | ⟨x, y, rfl, rfl, _, hy⟩
  · exact Or.inl rfl
  · refine Or.inr (reread_of_read ?_)
    rw [zero_of_isZero hy]
    exact read_zero y.negative

theorem reread_eq_of_same {n : Number} (h : (n.reread == n) = true) : n.reread = n := by
  rcases eq_or_reread h with heq | heq <;> exact heq

end Number

namespace Query

theorem readsBack_iff {n : Number} :
    n.ReadsBack ↔ ∃ m, Spells n.text [.number m] [] ∧ (m == n) = true := by
  constructor
  · intro h
    rcases h with ⟨m, position, htokens, hsame⟩
    exact ⟨m, spells_of_tokenize htokens, hsame⟩
  · intro h
    rcases h with ⟨m, hspells, hsame⟩
    rcases tokenize_of_spells hspells with ⟨tokens, htokens, hkinds⟩
    rcases kinds_eq_cons hkinds with ⟨⟨kind, position⟩, right, rfl, hkind, hright⟩
    cases hkind
    rw [kinds_eq_nil hright] at htokens
    exact ⟨m, position, htokens, hsame⟩

theorem readsBack_iff_reread {n : Number} : n.ReadsBack ↔ n.Legible ∧ n.reread = n := by
  rw [readsBack_iff]
  constructor
  · intro h
    rcases h with ⟨m, hspells, hsame⟩
    have htext : Spells (n.text ++ []) [.number m] [] := by
      rw [List.append_nil]
      exact hspells
    have hlegible : n.Legible := read_of_spells_append seam_nil htext
    refine ⟨hlegible, ?_⟩
    rcases (spells_number hlegible.read_text).split hspells with ⟨back, hlist, _⟩
    cases hlist
    exact Number.reread_eq_of_same hsame
  · intro h
    rcases h with ⟨hlegible, hreread⟩
    have hspells := spells_number hlegible.read_text
    rw [hreread] at hspells
    exact ⟨n, hspells, Number.same_refl n⟩

theorem readsBack_integer {n : Int} (h : Number.Fits n) : (Number.integer n h).ReadsBack :=
  readsBack_iff.mpr ⟨.integer n h, spells_integer h, Number.same_refl _⟩

end Query

/-!
# The numbers of a filter
-/

namespace Literal

def numbers : Literal → List Number
  | number n => [n]
  | _ => []

def reread : Literal → Literal
  | number n => number n.reread
  | value => value

end Literal

namespace Operand

def numbers : Operand → List Number
  | target _ => []
  | literal value => value.numbers

def reread : Operand → Operand
  | target t => target t
  | literal value => literal value.reread

end Operand

namespace Bound

def reread : Bound → Bound
  | number n => number n.reread
  | bound => bound

end Bound

namespace Range

/-- The bounds change places if they are no longer in order. -/
def reread (range : Range) : Range :=
  ofBounds range.lower.reread range.upper.reread

end Range

namespace Object

def numbers : Object → List Number
  | operand o => o.numbers
  | array items => items.flatMap Literal.numbers
  | range r => r.lower.toLiteral.numbers ++ r.upper.toLiteral.numbers
  | pattern _ => []

def reread : Object → Object
  | operand o => operand o.reread
  | array items => array (items.map Literal.reread)
  | range r => range r.reread
  | pattern p => pattern p

end Object

namespace Clause

def numbers (clause : Clause) : List Number :=
  clause.subject.numbers ++ clause.object?.toList.flatMap Object.numbers

@[simp] theorem numbers_complete (subject : Operand) (operator : Operator) (object : Object) :
    (complete subject operator object).numbers = subject.numbers ++ object.numbers := by
  simp [numbers, Clause.subject, object?]

def reread : Clause → Clause
  | started subject => started subject.reread
  | selected subject operator => selected subject.reread operator
  | complete subject operator object => complete subject.reread operator object.reread

end Clause

mutual

def Node.reread : Node → Node
  | .clause clause => .clause clause.reread
  | .group filter => .group filter.reread

/-- The filter with every number read again. -/
def Filter.reread : Filter → Filter
  | .single node => .single node.reread
  | .join left conjunction node => .join left.reread conjunction node.reread

end

namespace Filter

/-- Every number in the filter, those in groups included. -/
def numbers (filter : Filter) : List Number :=
  filter.clauses.flatMap Clause.numbers

/-- The text of every number in the filter is read as a number. -/
def Legible (filter : Filter) : Prop :=
  ∀ n ∈ filter.numbers, n.Legible

end Filter

theorem Query.readsBack_of_floats {filter : Filter}
    (hfloats : ∀ x, Number.float x ∈ filter.numbers → (Number.float x).ReadsBack) :
    ∀ n ∈ filter.numbers, n.ReadsBack := by
  intro n hn
  cases n with
  | integer value fits =>
      exact readsBack_integer fits
  | float x =>
      exact hfloats x hn

/-!
# Filters that come back as they are
-/

theorem Literal.reread_eq_self {value : Literal} (h : ∀ n ∈ value.numbers, n.reread = n) :
    value.reread = value := by
  cases value with
  | number n =>
      exact congrArg Literal.number (h n List.mem_cons_self)
  | nil | boolean _ | string _ =>
      rfl

theorem Bound.reread_eq_self {bound : Bound} (h : ∀ n ∈ bound.toLiteral.numbers, n.reread = n) :
    bound.reread = bound := by
  cases bound with
  | number n =>
      exact congrArg Bound.number (h n List.mem_cons_self)
  | unbounded | string _ =>
      rfl

theorem Operand.reread_eq_self {operand : Operand} (h : ∀ n ∈ operand.numbers, n.reread = n) :
    operand.reread = operand := by
  cases operand with
  | target t =>
      rfl
  | literal value =>
      exact congrArg Operand.literal (Literal.reread_eq_self h)

theorem Object.reread_eq_self {object : Object} (h : ∀ n ∈ object.numbers, n.reread = n) :
    object.reread = object := by
  cases object with
  | operand o =>
      exact congrArg Object.operand (Operand.reread_eq_self h)
  | array items =>
      have hitems : items.map Literal.reread = items.map id :=
        List.map_congr_left fun item hitem =>
          Literal.reread_eq_self fun n hn => h n (List.mem_flatMap_of_mem hitem hn)
      rw [Object.reread, hitems, List.map_id]
  | range r =>
      have hlower : r.lower.reread = r.lower :=
        Bound.reread_eq_self fun n hn => h n (List.mem_append_left _ hn)
      have hupper : r.upper.reread = r.upper :=
        Bound.reread_eq_self fun n hn => h n (List.mem_append_right _ hn)
      apply congrArg Object.range
      rw [Range.reread, hlower, hupper, Range.ofBounds_self]
  | pattern p =>
      rfl

theorem Clause.reread_eq_self {clause : Clause} (h : ∀ n ∈ clause.numbers, n.reread = n) :
    clause.reread = clause := by
  have hsubject : clause.subject.reread = clause.subject :=
    Operand.reread_eq_self fun n hn => h n (List.mem_append_left _ hn)
  cases clause with
  | started subject =>
      exact congrArg started hsubject
  | selected subject operator =>
      exact congrArg (selected · operator) hsubject
  | complete subject operator object =>
      rw [numbers_complete] at h
      have hobject : object.reread = object :=
        Object.reread_eq_self fun n hn => h n (List.mem_append_right _ hn)
      have hsubject' : subject.reread = subject := hsubject
      rw [Clause.reread, hsubject', hobject]

mutual

theorem Node.reread_eq_of_clauses : ∀ {node : Node},
    (∀ clause ∈ node.clauses, clause.reread = clause) → node.reread = node
  | .clause clause, h => congrArg Node.clause (h clause List.mem_cons_self)
  | .group _, h => congrArg Node.group (Filter.reread_eq_of_clauses h)

theorem Filter.reread_eq_of_clauses : ∀ {filter : Filter},
    (∀ clause ∈ filter.clauses, clause.reread = clause) → filter.reread = filter
  | .single _, h => congrArg Filter.single (Node.reread_eq_of_clauses h)
  | .join _ _ _, h => by
      rw [Filter.reread, Filter.reread_eq_of_clauses fun clause hclause =>
          h clause (List.mem_append_left _ hclause),
        Node.reread_eq_of_clauses fun clause hclause =>
          h clause (List.mem_append_right _ hclause)]

end

theorem Filter.reread_eq_self {filter : Filter} (h : ∀ n ∈ filter.numbers, n.reread = n) :
    filter.reread = filter :=
  Filter.reread_eq_of_clauses fun _ hclause =>
    Clause.reread_eq_self fun n hn => h n (List.mem_flatMap_of_mem hclause hn)

/-!
# Filters that come back equal

Equality as data leaves only the sign of a zero open, and zeros come back with their sign.
-/

theorem Literal.reread_eq_of_same {value : Literal} (h : (value.reread == value) = true) :
    value.reread = value := by
  cases value with
  | number n =>
      exact congrArg Literal.number (Number.reread_eq_of_same h)
  | nil | boolean _ | string _ =>
      rfl

theorem Literal.map_reread_eq_of_same {items : List Literal}
    (h : (items.map reread == items) = true) : items.map reread = items := by
  induction items with
  | nil =>
      rfl
  | cons item rest ih =>
      have hparts : (item.reread == item && rest.map reread == rest) = true := h
      rw [Bool.and_eq_true] at hparts
      rw [List.map_cons, reread_eq_of_same hparts.1, ih hparts.2]

theorem Operand.reread_eq_of_same {operand : Operand} (h : (operand.reread == operand) = true) :
    operand.reread = operand := by
  cases operand with
  | target t =>
      rfl
  | literal value =>
      exact congrArg Operand.literal (Literal.reread_eq_of_same h)

theorem Bound.eq_or_reread {a b : Bound} (h : (a == b) = true) : a = b ∨ b.reread = b := by
  rcases eq_or_numbers h with heq | ⟨m, n, rfl, rfl, hsame⟩
  · exact Or.inl heq
  · rcases Number.eq_or_reread hsame with heq | hreread
    · exact Or.inl (congrArg Bound.number heq)
    · exact Or.inr (congrArg Bound.number hreread)

theorem Bound.reread_eq_of_same {bound : Bound} (h : (bound.reread == bound) = true) :
    bound.reread = bound := by
  rcases Bound.eq_or_reread h with heq | heq <;> exact heq

/--
Bounds that have changed places give an equal range only if each was read as the other.  Then
neither of them is a zero, since a zero stays itself and would not have changed places.
-/
theorem Range.reread_eq_of_same {range : Range} (h : (range.reread == range) = true) :
    range.reread = range := by
  unfold Range.reread ofBounds at h ⊢
  by_cases horder : range.lower.reread.order range.upper.reread = .gt
  · rw [dif_pos horder] at h ⊢
    have hsame : (range.upper.reread == range.lower && range.lower.reread == range.upper) = true :=
      h
    rw [Bool.and_eq_true] at hsame
    have hlower : range.upper.reread = range.lower := by
      rcases Bound.eq_or_reread hsame.1 with heq | hstays
      · exact heq
      · rw [hstays, Bound.order_congr (beq_self_eq_true range.lower) hsame.1] at horder
        exact absurd horder (Bound.order_self range.lower)
    have hupper : range.lower.reread = range.upper := by
      rcases Bound.eq_or_reread hsame.2 with heq | hstays
      · exact heq
      · rw [hstays, Bound.order_congr hsame.2 (beq_self_eq_true range.upper)] at horder
        exact absurd horder (Bound.order_self range.upper)
    exact Range.eq_of_bounds hlower hupper
  · rw [dif_neg horder] at h ⊢
    have hsame : (range.lower.reread == range.lower && range.upper.reread == range.upper) = true :=
      h
    rw [Bool.and_eq_true] at hsame
    exact Range.eq_of_bounds (Bound.reread_eq_of_same hsame.1) (Bound.reread_eq_of_same hsame.2)

theorem Object.reread_eq_of_same {object : Object} (h : (object.reread == object) = true) :
    object.reread = object := by
  cases object with
  | operand o =>
      exact congrArg Object.operand (Operand.reread_eq_of_same h)
  | array items =>
      exact congrArg Object.array (Literal.map_reread_eq_of_same h)
  | range r =>
      exact congrArg Object.range (Range.reread_eq_of_same h)
  | pattern p =>
      rfl

theorem Clause.reread_eq_of_same {clause : Clause} (h : (clause.reread == clause) = true) :
    clause.reread = clause := by
  cases clause with
  | started subject =>
      exact congrArg started (Operand.reread_eq_of_same h)
  | selected subject operator =>
      have hparts : (subject.reread == subject && operator == operator) = true := h
      rw [Bool.and_eq_true] at hparts
      exact congrArg (selected · operator) (Operand.reread_eq_of_same hparts.1)
  | complete subject operator object =>
      have hparts : (subject.reread == subject && operator == operator &&
          object.reread == object) = true := h
      rw [Bool.and_eq_true, Bool.and_eq_true] at hparts
      rw [Clause.reread, Operand.reread_eq_of_same hparts.1.1,
        Object.reread_eq_of_same hparts.2]

mutual

theorem Node.clauses_reread : ∀ node : Node,
    node.reread.clauses = node.clauses.map Clause.reread
  | .clause _ => rfl
  | .group filter => Filter.clauses_reread filter

theorem Filter.clauses_reread : ∀ filter : Filter,
    filter.reread.clauses = filter.clauses.map Clause.reread
  | .single node => Node.clauses_reread node
  | .join left conjunction node => by
      rw [Filter.reread, Filter.clauses, Filter.clauses_reread left, Node.clauses_reread node,
        Filter.clauses, List.map_append]

end

theorem Filter.reread_eq_of_same {filter : Filter} (h : (filter.reread == filter) = true) :
    filter.reread = filter := by
  have hclauses := Filter.clauses_same h
  rw [Filter.clauses_reread, List.forall₂_map_left_iff, List.forall₂_same] at hclauses
  exact Filter.reread_eq_of_clauses fun clause hclause =>
    Clause.reread_eq_of_same (hclauses clause hclause)

/-!
# Depth
-/

mutual

theorem Node.depth_reread : ∀ node : Node, node.reread.depth = node.depth
  | .clause _ => rfl
  | .group filter => congrArg Nat.succ (Filter.depth_reread filter)

theorem Filter.depth_reread : ∀ filter : Filter, filter.reread.depth = filter.depth
  | .single node => Node.depth_reread node
  | .join left _ node => by
      rw [Filter.reread, Filter.depth, Filter.depth, Filter.depth_reread left,
        Node.depth_reread node]

end

end RecordFilter
