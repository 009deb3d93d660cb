import RecordFilter.Clause.Evaluation
import RecordFilter.Pattern.Engine
import RecordFilter.Proofs.Number.Order

/-!
# Operators on numbers

Every operator that compares numbers goes through their order.  It agrees with the values of the
numbers as long as none of them is confused with another.
-/

namespace RecordFilter

namespace Operator

/-- The relation of values that a comparison stands for. -/
def Relates : Operator → ℚ → ℚ → Prop
  | eq, x, y => x = y
  | neq, x, y => x ≠ y
  | gt, x, y => y < x
  | gte, x, y => y ≤ x
  | lt, x, y => x < y
  | lte, x, y => x ≤ y
  | _, _, _ => False

/-- The operator can be applied, and holds exactly under the condition. -/
def Decides [Pattern.Engine] (operator : Operator) (subject : Json) (object : Resolved)
    (condition : Prop) : Prop :=
  ∃ holds, operator.apply (some subject) object = .ok holds ∧ (holds = true ↔ condition)

end Operator

/-!
# Comparisons
-/

namespace Number

theorem equal_iff {a b : Number} (h : ¬a.Confused b) :
    (Json.number a).equal (.number b) = true ↔ a.value = b.value := by
  rw [Json.equal, compare_of_not_confused h, beq_iff_eq, cmp_eq_eq_iff]

theorem order?_eq_some {a b : Number} (h : ¬a.Confused b) :
    (Json.number a).order? (.number b) = some (cmp a.value b.value) := by
  rw [Json.order?, compare_of_not_confused h]

theorem comparison_decides [Pattern.Engine] {operator : Operator}
    (hfamily : operator.family = .comparison) {a b : Number} (h : ¬a.Confused b) :
    operator.Decides (.number a) (.value (some (.number b)))
      (operator.Relates a.value b.value) := by
  have horder := order?_eq_some h
  cases operator with
  | eq =>
      exact ⟨_, rfl, equal_iff h⟩
  | neq =>
      refine ⟨_, rfl, ?_⟩
      have hequal := equal_iff h
      show (!(Json.number a).equal (.number b)) = true ↔ a.value ≠ b.value
      rw [Bool.not_eq_true', ← Bool.not_eq_true, hequal]
  | gt =>
      refine ⟨_, rfl, ?_⟩
      show ((Json.number a).order? (.number b) == some .gt) = true ↔ b.value < a.value
      rw [horder, beq_iff_eq, Option.some_inj, cmp_eq_gt_iff]
  | gte =>
      refine ⟨_, rfl, ?_⟩
      show ((Json.number a).order? (.number b) == some .gt ||
        (Json.number a).order? (.number b) == some .eq) = true ↔ b.value ≤ a.value
      rw [horder, Bool.or_eq_true, beq_iff_eq, beq_iff_eq, Option.some_inj, Option.some_inj,
        cmp_eq_gt_iff, cmp_eq_eq_iff, le_iff_lt_or_eq, eq_comm]
  | lt =>
      refine ⟨_, rfl, ?_⟩
      show ((Json.number a).order? (.number b) == some .lt) = true ↔ a.value < b.value
      rw [horder, beq_iff_eq, Option.some_inj, cmp_eq_lt_iff]
  | lte =>
      refine ⟨_, rfl, ?_⟩
      show ((Json.number a).order? (.number b) == some .lt ||
        (Json.number a).order? (.number b) == some .eq) = true ↔ a.value ≤ b.value
      rw [horder, Bool.or_eq_true, beq_iff_eq, beq_iff_eq, Option.some_inj, Option.some_inj,
        cmp_eq_lt_iff, cmp_eq_eq_iff, le_iff_lt_or_eq]
  | isIn | notIn | between | nbetween | like | nlike =>
      cases hfamily

/-!
# Membership
-/

theorem membership_decides [Pattern.Engine] {a : Number} {items : List Literal}
    (h : ∀ n, .number n ∈ items → ¬a.Confused n) :
    Operator.isIn.Decides (.number a) (.array items)
      (∃ n, .number n ∈ items ∧ a.value = n.value) := by
  refine ⟨_, rfl, ?_⟩
  show (items.any fun item => (Json.number a).equal item.toJson) = true ↔ _
  rw [List.any_eq_true]
  constructor
  · rintro ⟨item, hmem, hequal⟩
    cases item with
    | number n =>
        exact ⟨n, hmem, (equal_iff (h n hmem)).mp hequal⟩
    | nil | boolean | string =>
        cases hequal
  · rintro ⟨n, hmem, hvalue⟩
    exact ⟨.number n, hmem, (equal_iff (h n hmem)).mpr hvalue⟩

end Number

/-!
# Ranges

A string bounds no number.
-/

namespace Bound

def AtMost : Bound → ℚ → Prop
  | unbounded, _ => True
  | number n, x => n.value ≤ x
  | string _, _ => False

def AtLeast : Bound → ℚ → Prop
  | unbounded, _ => True
  | number n, x => x ≤ n.value
  | string _, _ => False

theorem orderOfValue?_number {a n : Number} (h : ¬a.Confused n) :
    (number n).orderOfValue? (.number a) = some (cmp a.value n.value) :=
  congrArg some (Number.compare_of_not_confused h)

end Bound

namespace Range

def Spans (range : Range) (x : ℚ) : Prop :=
  range.lower.AtMost x ∧ range.upper.AtLeast x

theorem aboveLower_iff {range : Range} {a : Number}
    (h : ∀ n, range.lower = .number n → ¬a.Confused n) :
    range.aboveLower (.number a) = true ↔ range.lower.AtMost a.value := by
  unfold aboveLower
  cases hlower : range.lower with
  | unbounded =>
      exact ⟨fun _ => trivial, fun _ => rfl⟩
  | number n =>
      have horder := Bound.orderOfValue?_number (h n hlower)
      rcases lt_trichotomy a.value n.value with hlt | heq | hgt
      · rw [hlt.cmp_eq_lt] at horder
        simpa [horder, Bound.AtMost] using hlt
      · rw [heq.cmp_eq_eq] at horder
        simpa [horder, Bound.AtMost] using heq.ge
      · rw [hgt.cmp_eq_gt] at horder
        simpa [horder, Bound.AtMost] using hgt.le
  | string s =>
      exact ⟨fun habsurd => Bool.noConfusion habsurd, False.elim⟩

theorem belowUpper_iff {range : Range} {a : Number}
    (h : ∀ n, range.upper = .number n → ¬a.Confused n) :
    range.belowUpper (.number a) = true ↔ range.upper.AtLeast a.value := by
  unfold belowUpper
  cases hupper : range.upper with
  | unbounded =>
      exact ⟨fun _ => trivial, fun _ => rfl⟩
  | number n =>
      have horder := Bound.orderOfValue?_number (h n hupper)
      rcases lt_trichotomy a.value n.value with hlt | heq | hgt
      · rw [hlt.cmp_eq_lt] at horder
        simpa [horder, Bound.AtLeast] using hlt.le
      · rw [heq.cmp_eq_eq] at horder
        simpa [horder, Bound.AtLeast] using heq.le
      · rw [hgt.cmp_eq_gt] at horder
        simpa [horder, Bound.AtLeast] using hgt
  | string s =>
      exact ⟨fun habsurd => Bool.noConfusion habsurd, False.elim⟩

theorem between_decides [Pattern.Engine] {range : Range} {a : Number}
    (h : ∀ n, range.lower = .number n ∨ range.upper = .number n → ¬a.Confused n) :
    Operator.between.Decides (.number a) (.range range) (range.Spans a.value) := by
  refine ⟨_, rfl, ?_⟩
  show (range.aboveLower (.number a) && range.belowUpper (.number a)) = true ↔ _
  rw [Bool.and_eq_true, aboveLower_iff (fun n hn => h n (Or.inl hn)),
    belowUpper_iff (fun n hn => h n (Or.inr hn))]
  exact Iff.rfl

end Range

/-!
# Exactness

The order of numbers is that of their values but for numbers next to each other, which may come
out as equal.  Short numbers never do, and the operators follow the order.
-/

namespace Number

theorem compared_by_value [Pattern.Engine] (a : Number) :
    (∀ b, (a.compare b = cmp a.value b.value ↔ ¬a.Confused b) ∧
      (a.Confused b → a.compare b = .eq ∧
        |a.value - b.value| ≤ (|a.value| + |b.value|) / 2 ^ 48 + 4 / 10 ^ 28) ∧
      (a.Short → b.Short → ¬a.Confused b)) ∧
    (∀ (operator : Operator) (b : Number), operator.family = .comparison → ¬a.Confused b →
      operator.Decides (.number a) (.value (some (.number b)))
        (operator.Relates a.value b.value)) ∧
    (∀ items, (∀ n, .number n ∈ items → ¬a.Confused n) →
      Operator.isIn.Decides (.number a) (.array items)
        (∃ n, .number n ∈ items ∧ a.value = n.value)) ∧
    (∀ range : Range,
      (∀ n, range.lower = .number n ∨ range.upper = .number n → ¬a.Confused n) →
      Operator.between.Decides (.number a) (.range range) (range.Spans a.value)) := by
  refine ⟨?order, ?comparisons, ?membership, ?ranges⟩
  case order =>
      intro b
      exact ⟨a.compare_eq_cmp_iff b, fun h => ⟨compare_of_confused h, h.near⟩,
        not_confused_of_short⟩
  case comparisons =>
      intro operator b hfamily h
      exact comparison_decides hfamily h
  case membership =>
      intro items h
      exact membership_decides h
  case ranges =>
      intro range h
      exact Range.between_decides h

/-- Three tenths, as near as a double comes. -/
def threeTenths : Number :=
  .float ⟨false, ⟨0x13333333333333, -54⟩, by decide⟩

/-- The double above three tenths. -/
def aboveThreeTenths : Number :=
  .float ⟨false, ⟨0x13333333333334, -54⟩, by decide⟩

/-- An integer without a double of its own. -/
def oddInteger : Number :=
  .integer 0x20000000000001 (by decide)

/-- The double next to it. -/
def evenDouble : Number :=
  .float ⟨false, ⟨0x10000000000000, 1⟩, by decide⟩

theorem compared_by_value_oddInteger :
    oddInteger.compare evenDouble = cmp oddInteger.value evenDouble.value ∧
      Operator.gt.Decides (.number oddInteger) (.value (some (.number evenDouble)))
        (evenDouble.value < oddInteger.value) ∧
      Operator.isIn.Decides (.number oddInteger) (.array [.nil, .number evenDouble])
        (∃ n, .number n ∈ [.nil, Literal.number evenDouble] ∧ oddInteger.value = n.value) ∧
      Operator.between.Decides (.number oddInteger)
        (.range ⟨.number evenDouble, .unbounded, by decide⟩)
        (evenDouble.value ≤ oddInteger.value ∧ True) ∧
      |aboveThreeTenths.value - threeTenths.value| ≤
        (|aboveThreeTenths.value| + |threeTenths.value|) / 2 ^ 48 + 4 / 10 ^ 28 := by
  rcases compared_by_value oddInteger with ⟨horder, hcomparisons, hmembership, hranges⟩
  have hodd : oddInteger.Short := short_integer _ _
  have heven : evenDouble.Short := ⟨0x20000000000000, 0, by decide +kernel, Or.inl rfl⟩
  have hdistinct : ¬oddInteger.Confused evenDouble := (horder evenDouble).2.2 hodd heven
  have hconfused : aboveThreeTenths.Confused threeTenths :=
    ⟨by decide +kernel, 3 / 10, by decide +kernel, by decide +kernel⟩
  refine ⟨(horder evenDouble).1.mpr hdistinct, hcomparisons .gt evenDouble rfl hdistinct, ?_, ?_,
    (((compared_by_value aboveThreeTenths).1 threeTenths).2.1 hconfused).2⟩
  · apply hmembership
    intro n hmem
    rcases List.mem_cons.mp hmem with hnil | htail
    · cases hnil
    · cases List.mem_singleton.mp htail
      exact hdistinct
  · apply hranges ⟨.number evenDouble, .unbounded, by decide⟩
    intro n hbound
    rcases hbound with hlower | hupper
    · cases hlower
      exact hdistinct
    · cases hupper

/-- Adjacent doubles can settle on one decimal. -/
theorem compare_adjacent :
    aboveThreeTenths.compare threeTenths = .eq ∧
      cmp aboveThreeTenths.value threeTenths.value = .gt := by
  decide +kernel

end Number

end RecordFilter
