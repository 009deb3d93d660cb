import RecordFilter.Proofs.Clause.Comparison
import RecordFilter.Proofs.Clause.Negation
import RecordFilter.Proofs.Range

/-!
# Ranges and comparisons

The bounds of a range have an order of their own, and values are compared with them in a way of
their own.  Both agree with the order of values, so that a range says no more than the comparisons
with its concrete bounds.
-/

namespace RecordFilter

/-!
# Bounds
-/

namespace Bound

/-- The first bound comes after the second: by the order of values, and strings after numbers. -/
def Above : Bound → Bound → Prop
  | number m, number n => (Json.number m).order? (.number n) = some .gt
  | string s, string t => (Json.string s).order? (.string t) = some .gt
  | string _, number _ => True
  | _, _ => False

theorem order_eq_gt_iff {a b : Bound} : a.order b = .gt ↔ a.Above b := by
  cases a with
  | unbounded =>
      cases b <;> simp [order, Above]
  | number m =>
      cases b <;> simp [order, Above, Json.order?]
  | string s =>
      cases b <;> simp [order, Above, Json.order?]

theorem order_swap (a b : Bound) : b.order a = (a.order b).swap := by
  cases a with
  | unbounded =>
      cases b <;> rfl
  | number m =>
      cases b with
      | number n => exact show n.compare m = (m.compare n).swap from Std.OrientedCmp.eq_swap
      | unbounded | string => rfl
  | string s =>
      cases b with
      | string t => exact Std.OrientedOrd.eq_swap
      | unbounded | number => rfl

theorem order_eq_of_not_above {a b : Bound} (h : ¬a.Above b) (h' : ¬b.Above a) :
    a.order b = .eq := by
  rw [← order_eq_gt_iff] at h
  rw [← order_eq_gt_iff, order_swap a b] at h'
  cases horder : a.order b with
  | eq =>
      rfl
  | gt =>
      exact absurd horder h
  | lt =>
      exact absurd (by rw [horder]; rfl) h'

/-- Against a concrete bound, a value stands as it stands to the value of the bound. -/
theorem orderOfValue?_eq {bound : Bound} (h : bound ≠ unbounded) (value : Json) :
    bound.orderOfValue? value = value.order? bound.toLiteral.toJson := by
  cases bound with
  | unbounded =>
      exact absurd rfl h
  | number n | string s =>
      cases value <;> rfl

/-- Equal bounds need not be the same, but no value tells them apart. -/
theorem orderOfValue?_congr {a b : Bound} (ha : a ≠ unbounded) (hb : b ≠ unbounded)
    (h : a.order b = .eq) (value : Json) : a.orderOfValue? value = b.orderOfValue? value := by
  cases a with
  | unbounded =>
      exact absurd rfl ha
  | number m =>
      cases b with
      | unbounded =>
          exact absurd rfl hb
      | number n =>
          cases value with
          | number v =>
              have hsame : v.compare m = v.compare n := Std.TransCmp.congr_right h
              exact congrArg some hsame
          | null | bool | string | array | object =>
              rfl
      | string t =>
          cases h
  | string s =>
      cases b with
      | unbounded =>
          exact absurd rfl hb
      | number n =>
          cases h
      | string t =>
          rw [Std.LawfulEqOrd.eq_of_compare (show compare s t = .eq from h)]

/-- The bound is missing, or the value stands to it in one of the accepted orders. -/
def admits (bound : Bound) (accepted : Ordering → Bool) (value : Json) : Bool :=
  bound.isUnbounded || (bound.orderOfValue? value).any accepted

theorem admits_iff {bound : Bound} {accepted : Ordering → Bool} {value : Json} :
    bound.admits accepted value = true ↔
      (bound ≠ unbounded → (value.order? bound.toLiteral.toJson).any accepted = true) := by
  by_cases h : bound = unbounded
  · rw [h]
    exact ⟨fun _ hconcrete => absurd rfl hconcrete, fun _ => rfl⟩
  · have hmissing : bound.isUnbounded = false := by
      cases bound with
      | unbounded => exact absurd rfl h
      | number n | string s => rfl
    rw [admits, hmissing, Bool.false_or, orderOfValue?_eq h]
    exact ⟨fun hholds _ => hholds, fun hholds => hholds h⟩

theorem admits_congr {a b : Bound} (ha : a ≠ unbounded) (hb : b ≠ unbounded)
    (h : a.order b = .eq) (accepted : Ordering → Bool) (value : Json) :
    a.admits accepted value = b.admits accepted value := by
  rw [Bool.eq_iff_iff, admits_iff, admits_iff, ← orderOfValue?_eq ha, ← orderOfValue?_eq hb,
    orderOfValue?_congr ha hb h]
  exact ⟨fun hholds _ => hholds ha, fun hholds _ => hholds hb⟩

end Bound

/-!
# Containment
-/

namespace Range

theorem ofBounds_of_above {a b : Bound} (h : a.Above b) :
    (ofBounds a b).lower = b ∧ (ofBounds a b).upper = a := by
  rw [ofBounds, dif_pos (Bound.order_eq_gt_iff.mpr h)]
  exact ⟨rfl, rfl⟩

theorem ofBounds_of_not_above {a b : Bound} (h : ¬a.Above b) :
    (ofBounds a b).lower = a ∧ (ofBounds a b).upper = b := by
  rw [ofBounds, dif_neg (Bound.order_eq_gt_iff.not.mpr h)]
  exact ⟨rfl, rfl⟩

theorem not_above (range : Range) : ¬range.lower.Above range.upper :=
  Bound.order_eq_gt_iff.not.mp range.ordered

theorem aboveLower_eq (range : Range) (value : Json) :
    range.aboveLower value = range.lower.admits Ordering.isGE value := by
  unfold aboveLower
  cases range.lower with
  | unbounded =>
      rfl
  | number n | string s =>
      dsimp only [Bound.admits]
      cases Bound.orderOfValue? value _ with
      | none => rfl
      | some o => cases o <;> rfl

theorem belowUpper_eq (range : Range) (value : Json) :
    range.belowUpper value = range.upper.admits Ordering.isLE value := by
  unfold belowUpper
  cases range.upper with
  | unbounded =>
      rfl
  | number n | string s =>
      dsimp only [Bound.admits]
      cases Bound.orderOfValue? value _ with
      | none => rfl
      | some o => cases o <;> rfl

theorem isOrdered_iff {value : Json} :
    isOrdered value = true ↔ (∃ n, value = .number n) ∨ ∃ s, value = .string s := by
  cases value <;> simp [isOrdered]

/-- What is ordered against a concrete bound is of the type of the bound. -/
theorem isOrdered_of_order? {bound : Bound} (h : bound ≠ .unbounded) {value : Json}
    {accepted : Ordering → Bool}
    (horder : (value.order? bound.toLiteral.toJson).any accepted = true) :
    isOrdered value = true := by
  rcases (Option.any_eq_true _ _).mp horder with ⟨o, hsome, -⟩
  have hsame := Json.sameScalar_of_order? hsome
  cases bound with
  | unbounded =>
      exact absurd rfl h
  | number n | string s =>
      cases hsame
      rfl

/--
The type of a value needs to be asked for only if there is no bound: a concrete bound is compared
with values of its own type alone.
-/
theorem contains_iff {range : Range} {value : Json} :
    range.contains (some value) = true ↔
      (range.lower ≠ .unbounded →
        (value.order? range.lower.toLiteral.toJson).any Ordering.isGE = true) ∧
      (range.upper ≠ .unbounded →
        (value.order? range.upper.toLiteral.toJson).any Ordering.isLE = true) ∧
      (range.lower = .unbounded → range.upper = .unbounded → isOrdered value = true) := by
  rw [contains, Bool.and_eq_true, Bool.and_eq_true, aboveLower_eq, belowUpper_eq,
    Bound.admits_iff, Bound.admits_iff]
  constructor
  · rintro ⟨⟨hordered, hlower⟩, hupper⟩
    exact ⟨hlower, hupper, fun _ _ => hordered⟩
  · rintro ⟨hlower, hupper, hopen⟩
    refine ⟨⟨?_, hlower⟩, hupper⟩
    by_cases hl : range.lower = .unbounded
    · by_cases hu : range.upper = .unbounded
      · exact hopen hl hu
      · exact isOrdered_of_order? hu (hupper hu)
    · exact isOrdered_of_order? hl (hlower hl)

theorem ofBounds_swap {a b : Bound} (h : a.Above b) : ofBounds a b = ofBounds b a := by
  rcases ofBounds_of_above h with ⟨hlower, hupper⟩
  have hback : ¬b.Above a :=
    Bound.order_eq_gt_iff.not.mp (Bound.order_asymm (Bound.order_eq_gt_iff.mpr h))
  rcases ofBounds_of_not_above hback with ⟨hlower', hupper'⟩
  exact eq_of_bounds (hlower.trans hlower'.symm) (hupper.trans hupper'.symm)

/-- Bounds that are not apart may still differ, and then the two ranges do. -/
theorem contains_ofBounds_swap {a b : Bound} (ha : a ≠ .unbounded) (hb : b ≠ .unbounded)
    (value : Option Json) : (ofBounds a b).contains value = (ofBounds b a).contains value := by
  by_cases habove : a.Above b
  · rw [ofBounds_swap habove]
  by_cases hbelow : b.Above a
  · rw [ofBounds_swap hbelow]
  rcases ofBounds_of_not_above habove with ⟨hlower, hupper⟩
  rcases ofBounds_of_not_above hbelow with ⟨hlower', hupper'⟩
  cases value with
  | none =>
      rfl
  | some value =>
      have hsame := Bound.admits_congr ha hb (Bound.order_eq_of_not_above habove hbelow)
      rw [contains, contains, aboveLower_eq, aboveLower_eq, belowUpper_eq, belowUpper_eq, hlower,
        hlower', hupper, hupper', hsame, hsame]

theorem contains_number_string (n : Number) (s : String) (value : Option Json) :
    (ofBounds (.number n) (.string s)).contains value = false := by
  rcases ofBounds_of_not_above (a := .number n) (b := .string s) id with ⟨hlower, hupper⟩
  cases value with
  | none =>
      rfl
  | some value =>
      rw [contains, aboveLower_eq, belowUpper_eq, hlower, hupper]
      cases value <;> simp [Bound.admits, Bound.isUnbounded, Bound.orderOfValue?]

/-- No value is of the types of both bounds. -/
theorem contains_of_mixed {a b : Bound} {n : Number} {s : String}
    (h : a = .number n ∧ b = .string s ∨ a = .string s ∧ b = .number n) (value : Option Json) :
    (ofBounds a b).contains value = false := by
  rcases h with ⟨rfl, rfl⟩ | ⟨rfl, rfl⟩
  · exact contains_number_string n s value
  · have hswap := contains_ofBounds_swap (a := .string s) (b := .number n) nofun nofun value
    rw [hswap, contains_number_string]

end Range

/-!
# Clauses
-/

section Records

variable {ρ : Type} [Record ρ] (record : ρ)

namespace Operand

/-- The operand resolves to a value that ranges consist of. -/
def InSomeRange (subject : Operand) : Prop :=
  (∃ n, subject.resolve? record = some (.number n)) ∨
    ∃ s, subject.resolve? record = some (.string s)

end Operand

namespace Clause

variable [Pattern.Engine]

theorem evaluate_byOrder {operator : Operator} (h : operator ∈ Operator.byOrder)
    (subject : Operand) (literal : Literal) :
    (complete subject operator (.operand (.literal literal))).evaluate record =
      .ok ((subject.resolve? record).any fun value =>
        (value.order? literal.toJson).any operator.accepts) := by
  show operator.apply (subject.resolve? record) (.value (some literal.toJson)) = _
  cases subject.resolve? record with
  | none =>
      have hcomparison : operator.family = .comparison ∧ operator.isNegated = false := by
        cases operator <;> revert h <;> decide
      have hfamily : Resolved.family (.value (some literal.toJson)) = operator.family :=
        hcomparison.1.symm
      rw [Operator.apply_absent hfamily (Or.inl rfl), hcomparison.2]
      rfl
  | some value =>
      exact Operator.apply_byOrder h value literal.toJson

theorem evaluate_between_iff (subject : Operand) (range : Range) :
    (complete subject .between (.range range)).evaluate record = .ok true ↔
      (range.lower ≠ .unbounded → (complete subject .gte
        (.operand (.literal range.lower.toLiteral))).evaluate record = .ok true) ∧
      (range.upper ≠ .unbounded → (complete subject .lte
        (.operand (.literal range.upper.toLiteral))).evaluate record = .ok true) ∧
      (range.lower = .unbounded → range.upper = .unbounded → subject.InSomeRange record) := by
  have hbetween : (complete subject .between (.range range)).evaluate record =
      .ok (range.contains (subject.resolve? record)) := rfl
  rw [hbetween, evaluate_byOrder record (by decide), evaluate_byOrder record (by decide),
    Operand.InSomeRange, Except.ok.injEq, Except.ok.injEq, Except.ok.injEq]
  cases subject.resolve? record with
  | none =>
      constructor
      · intro habsurd
        cases habsurd
      · rintro ⟨hlower, hupper, hopen⟩
        by_cases hl : range.lower = .unbounded
        · by_cases hu : range.upper = .unbounded
          · rcases hopen hl hu with ⟨_, habsurd⟩ | ⟨_, habsurd⟩ <;> cases habsurd
          · exact hupper hu
        · exact hlower hl
  | some value =>
      rw [Range.contains_iff, Range.isOrdered_iff]
      simp only [Option.some_inj]
      exact Iff.rfl

/-- Only numbers and strings lie in ranges. -/
theorem inSomeRange_of_between {subject : Operand} {range : Range}
    (h : (complete subject .between (.range range)).evaluate record = .ok true) :
    subject.InSomeRange record := by
  have hcontains : range.contains (subject.resolve? record) = true := Except.ok.inj h
  rw [Operand.InSomeRange]
  cases hvalue : subject.resolve? record with
  | none =>
      rw [hvalue] at hcontains
      cases hcontains
  | some value =>
      rw [hvalue, Range.contains, Bool.and_eq_true, Bool.and_eq_true, Range.isOrdered_iff]
        at hcontains
      simpa only [Option.some_inj] using hcontains.1.1

end Clause
end Records

/-!
# Ranges as pairs of comparisons
-/

namespace Range

/--
A range keeps its bounds in order, and concrete bounds may be given in either.  What lies between
them is at least the lower bound and at most the upper one, as far as they are concrete, and else
any number or string; nothing lies between bounds of different types.  Outside of a range is
whatever is not in it, be it of another type or absent.
-/
theorem between_as_comparisons [Pattern.Engine] (a b : Bound) :
    ¬(ofBounds a b).lower.Above (ofBounds a b).upper ∧
    (a.Above b → (ofBounds a b).lower = b ∧ (ofBounds a b).upper = a) ∧
    (¬a.Above b → (ofBounds a b).lower = a ∧ (ofBounds a b).upper = b) ∧
    (a ≠ .unbounded → b ≠ .unbounded → ∀ value : Option Json,
      (ofBounds a b).contains value = (ofBounds b a).contains value) ∧
    ∀ (ρ : Type) [Record ρ] (record : ρ) (subject : Operand), ∃ inside,
      (Clause.complete subject .between (.range (ofBounds a b))).evaluate record = .ok inside ∧
      (Clause.complete subject .nbetween (.range (ofBounds a b))).evaluate record = .ok !inside ∧
      (inside = true ↔
        ((ofBounds a b).lower ≠ .unbounded → (Clause.complete subject .gte
          (.operand (.literal (ofBounds a b).lower.toLiteral))).evaluate record = .ok true) ∧
        ((ofBounds a b).upper ≠ .unbounded → (Clause.complete subject .lte
          (.operand (.literal (ofBounds a b).upper.toLiteral))).evaluate record = .ok true) ∧
        ((ofBounds a b).lower = .unbounded → (ofBounds a b).upper = .unbounded →
          subject.InSomeRange record)) ∧
      (∀ n s, a = .number n ∧ b = .string s ∨ a = .string s ∧ b = .number n → inside = false) ∧
      (¬subject.InSomeRange record → inside = false) := by
  refine ⟨not_above _, ofBounds_of_above, ofBounds_of_not_above, contains_ofBounds_swap, ?_⟩
  intro ρ _ record subject
  have hfamily : Object.family (.range (ofBounds a b)) = Operator.between.family := rfl
  rcases Clause.evaluate_negated record .range subject hfamily with ⟨inside, hinside, houtside⟩
  have hiff := Clause.evaluate_between_iff record subject (ofBounds a b)
  rw [hinside, Except.ok.injEq] at hiff
  refine ⟨inside, hinside, houtside, hiff, ?mixed, ?untyped⟩
  case mixed =>
      intro n s hmixed
      have hcontains : (ofBounds a b).contains (subject.resolve? record) = inside :=
        Except.ok.inj hinside
      rw [← hcontains, contains_of_mixed hmixed]
  case untyped =>
      intro hnot
      refine eq_false_of_ne_true fun htrue => hnot ?_
      exact Clause.inSomeRange_of_between record (by rw [hinside, htrue])

def six : Bound :=
  .number (.integer 6 (by decide))

def nine : Bound :=
  .number (.integer 9 (by decide))

def eightMember : Json :=
  .object [("a", .number (.integer 8 (by decide)))]

theorem between_as_comparisons_inverted :
    nine.Above six ∧ (ofBounds nine six).lower = six ∧ (ofBounds six nine).lower = six ∧
    (ofBounds nine six).contains (some .null) = (ofBounds six nine).contains (some .null) ∧
    (Clause.complete (.target ⟨["a"]⟩) .between (.range (ofBounds nine six))).evaluate
      eightMember = .ok true ∧
    (Clause.complete (.target ⟨["b"]⟩) .nbetween (.range (ofBounds nine six))).evaluate
      eightMember = .ok true ∧
    (Clause.complete (.target ⟨["a"]⟩) .between (.range (ofBounds (.string "x") six))).evaluate
      eightMember = .ok false := by
  have habove : nine.Above six := by
    rw [← Bound.order_eq_gt_iff]
    decide +kernel
  have hbelow : ¬six.Above nine := by
    rw [← Bound.order_eq_gt_iff]
    decide +kernel
  rcases between_as_comparisons nine six with ⟨-, hswapped, -, hsame, hclauses⟩
  rcases between_as_comparisons six nine with ⟨-, -, hkept, -, -⟩
  refine ⟨habove, (hswapped habove).1, (hkept hbelow).1, hsame nofun nofun _, ?within, ?absent,
    ?mixed⟩
  case within =>
      rcases hclauses Json eightMember (.target ⟨["a"]⟩) with ⟨inside, hinside, -, hiff, -, -⟩
      rw [hinside, hiff.mpr ⟨fun _ => by decide +kernel, fun _ => by decide +kernel, ?_⟩]
      intro hopen
      rw [(hswapped habove).1] at hopen
      cases hopen
  case absent =>
      rcases hclauses Json eightMember (.target ⟨["b"]⟩) with ⟨inside, -, houtside, -, -, hnot⟩
      rw [houtside, hnot (by rintro (⟨_, h⟩ | ⟨_, h⟩) <;> cases h)]
      rfl
  case mixed =>
      rcases between_as_comparisons (.string "x") six with ⟨-, -, -, -, hmixed⟩
      rcases hmixed Json eightMember (.target ⟨["a"]⟩) with ⟨inside, hinside, -, -, hfalse, -⟩
      rw [hinside, hfalse _ _ (Or.inr ⟨rfl, rfl⟩)]

end Range
end RecordFilter
