import RecordFilter.Filter.Evaluation
import RecordFilter.Proofs.Number.Integer
import RecordFilter.Proofs.Target

/-!
# Places in records

A target leads through a record key by key and index by index.  The members of an object and the
object itself are looked into along different ways, by the segments of the target and by its
pointer; both end at the place that the segments lead to.
-/

namespace RecordFilter
namespace Json

/-- A key leads to its member in an object, and the decimal text of an index to its item. -/
inductive HasChild : Json → String → Json → Prop where
  | member {members : Members} {key : String} {child : Json} :
      members.lookup key = some child → HasChild (.object members) key child
  | item {items : List Json} {index : Nat} {child : Json} :
      items[index]? = some child → HasChild (.array items) index.repr child

/-- The segments lead from a value to a place inside it. -/
inductive Leads : Json → List String → Json → Prop where
  | here (value : Json) : Leads value [] value
  | child {value next place : Json} {segment : String} {segments : List String} :
      HasChild value segment next → Leads next segments place →
      Leads value (segment :: segments) place

/-!
# Indices
-/

theorem index?_toDigits (index : Nat) : index? (Nat.toDigits 10 index) = some index := by
  by_cases hzero : index = 0
  · rw [hzero]
    rfl
  · rcases Numeral.head_toDigits (Nat.pos_of_ne_zero hzero) with ⟨c, rest, hdigits, hc⟩
    have hall : (c :: rest).all Char.isDigit = true := by
      rw [← hdigits]
      exact List.all_eq_true.mpr fun _ => Numeral.isDigit_of_mem
    have hvalue : Numeral.digitsValue (c :: rest) = index := by
      rw [← hdigits, Numeral.digitsValue_toDigits]
    rw [hdigits]
    unfold index?
    split
    · next hnil =>
        cases hnil
    · next hcons =>
        cases hcons
        exact absurd rfl hc
    · next hcons =>
        cases hcons
        rw [if_pos ⟨hc, hall⟩, hvalue]

/-- Signs, leading zeros and everything else that is not written for an index are refused. -/
theorem index?_eq_some_iff {segment : List Char} {index : Nat} :
    index? segment = some index ↔ segment = Nat.toDigits 10 index := by
  constructor
  · intro h
    unfold index? at h
    split at h
    · cases h
    · cases h
      rfl
    · next c rest _ =>
        split at h
        · next hdigits =>
            cases h
            exact (Numeral.toDigits_digitsValue hdigits.1 (List.all_eq_true.mp hdigits.2)).symm
        · cases h
  · intro h
    rw [h]
    exact index?_toDigits index

theorem child?_eq_some_iff {value child : Json} {segment : String} :
    value.child? segment.toList = some child ↔ HasChild value segment child := by
  constructor
  · intro h
    unfold child? at h
    split at h
    · next members =>
        rw [String.ofList_toList] at h
        exact .member h
    · next items =>
        rcases Option.bind_eq_some_iff.mp h with ⟨index, hindex, hitem⟩
        have hsegment : segment = index.repr := by
          apply String.toList_injective
          rw [Nat.toList_repr]
          exact index?_eq_some_iff.mp hindex
        rw [hsegment]
        exact .item hitem
    · cases h
  · intro h
    cases h with
    | member hlookup =>
        rw [child?, String.ofList_toList]
        exact hlookup
    | @item items index _ hitem =>
        rw [child?, Nat.toList_repr, index?_toDigits]
        exact hitem

theorem foldlM_child?_eq_some_iff {segments : List String} {value place : Json} :
    segments.foldlM (fun place segment => place.child? segment.toList) value = some place ↔
      Leads value segments place := by
  induction segments generalizing value with
  | nil =>
      constructor
      · intro h
        cases h
        exact .here _
      · intro h
        cases h
        rfl
  | cons segment segments ih =>
      rw [List.foldlM_cons]
      constructor
      · intro h
        rcases Option.bind_eq_some_iff.mp h with ⟨next, hnext, hplace⟩
        exact .child (child?_eq_some_iff.mp hnext) (ih.mp hplace)
      · intro h
        cases h with
        | @child _ next _ _ _ hchild hleads =>
            exact Option.bind_eq_some_iff.mpr
              ⟨next, child?_eq_some_iff.mpr hchild, ih.mpr hleads⟩

/-!
# Escapes

Slashes come back before tildes do, so the tilde of an escaped tilde is not taken for the start of
another escape.
-/

/-- The escape that is left when slashes have come back. -/
def escapeTilde (c : Char) : List Char :=
  if c = '~' then ['~', '0'] else [c]

theorem replaceEscape_cons (mark plain : Char) {c : Char} (h : c ≠ '~') (rest : List Char) :
    replaceEscape mark plain (c :: rest) = c :: replaceEscape mark plain rest := by
  cases rest with
  | nil =>
      rfl
  | cons d rest =>
      rw [replaceEscape, if_neg (fun hmark => h hmark.1)]

theorem replaceEscape_mark (mark plain : Char) (rest : List Char) :
    replaceEscape mark plain ('~' :: mark :: rest) = plain :: replaceEscape mark plain rest := by
  rw [replaceEscape, if_pos ⟨rfl, rfl⟩]

theorem replaceEscape_slash (segment : List Char) :
    replaceEscape '1' '/' (Target.escapeSegment segment) = segment.flatMap escapeTilde := by
  induction segment with
  | nil =>
      rfl
  | cons c segment ih =>
      have hcons : Target.escapeSegment (c :: segment) =
          Target.escape c ++ Target.escapeSegment segment := rfl
      rw [hcons, List.flatMap_cons, ← ih, Target.escape, escapeTilde]
      by_cases htilde : c = '~'
      · rw [if_pos htilde, if_pos htilde]
        have hzero := replaceEscape_cons '1' '/' (show '0' ≠ '~' by decide)
          (Target.escapeSegment segment)
        simp only [List.cons_append, List.nil_append]
        rw [replaceEscape, if_neg (by decide), hzero]
      · rw [if_neg htilde, if_neg htilde]
        by_cases hslash : c = '/'
        · rw [if_pos hslash, hslash]
          exact replaceEscape_mark '1' '/' _
        · rw [if_neg hslash]
          exact replaceEscape_cons '1' '/' htilde _

theorem replaceEscape_tilde (segment : List Char) :
    replaceEscape '0' '~' (segment.flatMap escapeTilde) = segment := by
  induction segment with
  | nil =>
      rfl
  | cons c segment ih =>
      rw [List.flatMap_cons, escapeTilde]
      by_cases htilde : c = '~'
      · rw [if_pos htilde, htilde]
        simp only [List.cons_append, List.nil_append]
        rw [replaceEscape_mark, ih]
      · rw [if_neg htilde, List.singleton_append, replaceEscape_cons '0' '~' htilde, ih]

theorem unescape_escapeSegment (segment : List Char) :
    unescape (Target.escapeSegment segment) = segment := by
  rw [unescape, replaceEscape_slash, replaceEscape_tilde]

/-!
# Pointers
-/

theorem atPointer?_pointerText (value : Json) (target : Target) :
    value.atPointer? target.pointerText =
      target.segments.foldlM (fun place segment => place.child? segment.toList) value := by
  rcases target with ⟨segments⟩
  cases segments with
  | nil =>
      rfl
  | cons first others =>
      have hpointer : Target.pointerText ⟨first :: others⟩ =
          '/' :: (Target.escapeSegment first.toList ++
            others.flatMap fun segment => '/' :: Target.escapeSegment segment.toList) := rfl
      rw [hpointer, atPointer?, if_pos rfl, Target.pieces_pointer, List.foldlM_map]
      simp only [unescape_escapeSegment]

theorem atPointer?_eq_some_iff {value place : Json} {target : Target} :
    value.atPointer? target.pointerText = some place ↔ Leads value target.segments place := by
  rw [atPointer?_pointerText, foldlM_child?_eq_some_iff]

/-- A target is absent if there is no place for it, and not if there is a null. -/
theorem atPointer?_eq_none_iff {value : Json} {target : Target} :
    value.atPointer? target.pointerText = none ↔ ¬∃ place, Leads value target.segments place := by
  rw [Option.eq_none_iff_forall_ne_some, not_exists]
  exact forall_congr' fun _ => not_congr atPointer?_eq_some_iff

namespace Members

/-- Up to its second slash, a pointer has its first segment. -/
theorem dropWhile_pointerText (first : String) (others : List String) :
    ((Target.pointerText ⟨first :: others⟩).drop 1).dropWhile (· ≠ '/') =
      Target.pointerText ⟨others⟩ := by
  have hpointer : (Target.pointerText ⟨first :: others⟩).drop 1 =
      Target.escapeSegment first.toList ++ Target.pointerText ⟨others⟩ := rfl
  have hfirst : ∀ c ∈ Target.escapeSegment first.toList, decide (c ≠ '/') = true := by
    intro c hc
    refine decide_eq_true ?_
    intro hslash
    rw [hslash] at hc
    exact Target.slash_not_mem_escapeSegment first.toList hc
  rw [hpointer, List.dropWhile_append_of_pos hfirst]
  cases others with
  | nil =>
      rfl
  | cons second others =>
      rfl

theorem resolve?_eq (members : Members) (target : Target) :
    members.resolve? target = (Json.object members).atPointer? target.pointerText := by
  rw [atPointer?_pointerText]
  rcases target with ⟨segments⟩
  cases segments with
  | nil =>
      rfl
  | cons first others =>
      rw [resolve?, dropWhile_pointerText, List.foldlM_cons, child?, String.ofList_toList]
      simp only [atPointer?_pointerText]
      rfl

end Members
end Json

/-!
# Records that resolve alike
-/

section Alike

variable [Pattern.Engine] {ρ σ : Type} [Record ρ] [Record σ] {record : ρ} {other : σ}

theorem Clause.holds_congr
    (h : ∀ target, Record.resolve? record target = Record.resolve? other target)
    (clause : Clause) : clause.holds record = clause.holds other := by
  have hoperand : ∀ operand : Operand, operand.resolve? record = operand.resolve? other := by
    intro operand
    cases operand with
    | target t =>
        exact h t
    | literal value =>
        rfl
  cases clause with
  | started subject =>
      rfl
  | selected subject operator =>
      rfl
  | complete subject operator object =>
      have hobject : object.resolve record = object.resolve other := by
        cases object with
        | operand operand =>
            exact congrArg Resolved.value (hoperand operand)
        | array items | range range | pattern pattern =>
            rfl
      unfold holds evaluate
      simp only [hoperand, hobject]

mutual

theorem Node.holds_congr
    (h : ∀ target, Record.resolve? record target = Record.resolve? other target) :
    ∀ node : Node, node.holds record = node.holds other
  | .clause clause => clause.holds_congr h
  | .group filter => Filter.holds_congr h filter

/-- A filter sees no more of a record than where its targets lead. -/
theorem Filter.holds_congr
    (h : ∀ target, Record.resolve? record target = Record.resolve? other target) :
    ∀ filter : Filter, filter.holds record = filter.holds other
  | .single node => Node.holds_congr h node
  | .join left conjunction node =>
      congrArg₂ conjunction.combine (Filter.holds_congr h left) (Node.holds_congr h node)

end

end Alike

/-!
# Objects and their members
-/

namespace Record

/--
In an object, a target resolves to the place that its segments lead to, and to nothing if there is
no such place.  The members of the object on their own resolve every target to the same, so the
same filters hold of them.
-/
theorem resolve?_object_members [Pattern.Engine] (members : Json.Members) (target : Target) :
    (∀ place, resolve? (Json.object members) target = some place ↔
      Json.Leads (.object members) target.segments place) ∧
    (resolve? (Json.object members) target = none ↔
      ¬∃ place, Json.Leads (.object members) target.segments place) ∧
    resolve? members target = resolve? (Json.object members) target ∧
    ∀ filter : Filter, filter.holds members = filter.holds (Json.object members) := by
  have hplace : ∀ place, resolve? (Json.object members) target = some place ↔
      Json.Leads (.object members) target.segments place :=
    fun _ => Json.atPointer?_eq_some_iff
  refine ⟨hplace, ?_, Json.Members.resolve?_eq members target, ?_⟩
  · rw [Option.eq_none_iff_forall_ne_some, not_exists]
    exact forall_congr' fun place => not_congr (hplace place)
  · exact Filter.holds_congr (Json.Members.resolve?_eq members)

end Record
end RecordFilter
