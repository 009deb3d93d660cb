import RecordFilter.Document
import RecordFilter.Proofs.Target

/-!
# Pointers and targets one to one

A text is a pointer if it is empty, or starts with a slash and has every tilde as an escape.  Each
such text is the pointer of one target, to which it is read, and each target has one pointer.  So
a document that holds the pointer holds the whole target.
-/

namespace RecordFilter
namespace Target

/-!
# Tildes
-/

/-- Behind every tilde of the text stands a zero or a one. -/
def TildesEscape (text : List Char) : Prop :=
  ∀ rest, '~' :: rest <:+ text → rest.head? = some '0' ∨ rest.head? = some '1'

theorem tildesEscape_nil : TildesEscape [] := by
  intro rest hsuffix
  cases List.suffix_nil.mp hsuffix

theorem tildesEscape_cons_iff {c : Char} {text : List Char} :
    TildesEscape (c :: text) ↔
      (c = '~' → text.head? = some '0' ∨ text.head? = some '1') ∧ TildesEscape text := by
  constructor
  · intro h
    constructor
    · intro hc
      rw [hc] at h
      exact h text (List.suffix_refl _)
    · intro rest hsuffix
      exact h rest (hsuffix.trans (List.suffix_cons c text))
  · rintro ⟨hhead, htail⟩ rest hsuffix
    rcases List.suffix_cons_iff.mp hsuffix with heq | hsuffix
    · cases heq
      exact hhead rfl
    · exact htail rest hsuffix

theorem tildesEscape_cons_of_ne {c : Char} (h : c ≠ '~') {text : List Char} :
    TildesEscape (c :: text) ↔ TildesEscape text := by
  rw [tildesEscape_cons_iff]
  exact and_iff_right fun hc => absurd hc h

theorem isSome_unescapeSegment_iff {text : List Char} :
    (unescapeSegment text).isSome ↔ TildesEscape text := by
  fun_induction unescapeSegment text with
  | case1 =>
      exact ⟨fun _ => tildesEscape_nil, fun _ => rfl⟩
  | case2 =>
      simp [tildesEscape_cons_iff]
  | case3 rest ih =>
      rw [Option.isSome_map, ih, tildesEscape_cons_iff,
        tildesEscape_cons_of_ne (by decide)]
      simp
  | case4 rest _ ih =>
      rw [Option.isSome_map, ih, tildesEscape_cons_iff,
        tildesEscape_cons_of_ne (by decide)]
      simp
  | case5 d rest hzero hone =>
      simp [tildesEscape_cons_iff, hzero, hone]
  | case6 c rest htilde ih =>
      rw [Option.isSome_map, ih, tildesEscape_cons_of_ne htilde]

/-!
# Pieces

A slash is no escape behind a tilde, so a tilde is followed by the same character in its piece as
in the whole text, unless it is not followed by an escape in either.
-/

theorem head?_of_pieces {text first : List Char} {others : List (List Char)}
    (h : pieces text = first :: others) {d : Char} (hd : d ≠ '/') :
    first.head? = some d ↔ text.head? = some d := by
  cases text with
  | nil =>
      cases h
      rfl
  | cons c rest =>
      by_cases hc : c = '/'
      · rw [pieces, if_pos hc] at h
        cases h
        simp [hc, Ne.symm hd]
      · rw [pieces, if_neg hc] at h
        cases hpieces : pieces rest with
        | nil =>
            exact absurd hpieces (pieces_ne_nil rest)
        | cons piece more =>
            rw [hpieces] at h
            cases h
            rfl

theorem forall_mem_pieces_tildesEscape_iff {text : List Char} :
    (∀ piece ∈ pieces text, TildesEscape piece) ↔ TildesEscape text := by
  induction text with
  | nil =>
      exact List.forall_mem_singleton
  | cons c rest ih =>
      by_cases hc : c = '/'
      · have hslash : c ≠ '~' := by
          rw [hc]
          decide
        rw [pieces, if_pos hc, List.forall_mem_cons, ih, tildesEscape_cons_of_ne hslash]
        exact and_iff_right tildesEscape_nil
      · rw [pieces, if_neg hc]
        cases hpieces : pieces rest with
        | nil =>
            exact absurd hpieces (pieces_ne_nil rest)
        | cons first others =>
            rw [hpieces, List.forall_mem_cons] at ih
            have hzero := head?_of_pieces hpieces (by decide : '0' ≠ '/')
            have hone := head?_of_pieces hpieces (by decide : '1' ≠ '/')
            rw [List.forall_mem_cons, tildesEscape_cons_iff, tildesEscape_cons_iff, hzero, hone,
              and_assoc, ih]

theorem exists_mapM_iff {α β : Type} {f : α → Option β} {list : List α} :
    (∃ values, list.mapM f = some values) ↔ ∀ a ∈ list, (f a).isSome := by
  induction list with
  | nil =>
      exact ⟨fun _ => List.forall_mem_nil _, fun _ => ⟨[], rfl⟩⟩
  | cons a list ih =>
      rw [List.mapM_cons, List.forall_mem_cons, ← ih, Option.isSome_iff_exists]
      constructor
      · rintro ⟨values, hvalues⟩
        rcases Option.bind_eq_some_iff.mp hvalues with ⟨first, hfirst, hmore⟩
        rcases Option.bind_eq_some_iff.mp hmore with ⟨more, hothers, _⟩
        exact ⟨⟨first, hfirst⟩, more, hothers⟩
      · rintro ⟨⟨first, hfirst⟩, more, hothers⟩
        exact ⟨first :: more, by rw [hfirst, hothers]; rfl⟩

/-!
# Pointers
-/

/-- The texts that are pointers. -/
def IsPointer (text : List Char) : Prop :=
  text = [] ∨ text.head? = some '/' ∧ TildesEscape text

theorem exists_parse_iff {text : String} :
    (∃ target, parse text = .ok target) ↔ IsPointer text.toList := by
  unfold parse IsPointer
  split
  · next hnil =>
      rw [hnil]
      exact ⟨fun _ => .inl rfl, fun _ => ⟨_, rfl⟩⟩
  · next c rest htext =>
      by_cases hc : c = '/'
      · have hslash : c ≠ '~' := by
          rw [hc]
          decide
        have hsegments : (∃ segments, (pieces rest).mapM unescapeSegment = some segments) ↔
            TildesEscape (c :: rest) := by
          rw [exists_mapM_iff, tildesEscape_cons_of_ne hslash,
            ← forall_mem_pieces_tildesEscape_iff]
          simp only [isSome_unescapeSegment_iff]
        rw [if_pos hc, htext, ← hsegments]
        cases (pieces rest).mapM unescapeSegment <;> simp [hc]
      · rw [if_neg hc, htext]
        simp [hc]

theorem parse_pointer (target : Target) : parse target.pointer = .ok target := by
  cases hroot : target.isRoot with
  | true =>
      rcases target with ⟨segments⟩
      cases segments with
      | nil =>
          rfl
      | cons first others =>
          cases hroot
  | false =>
      exact parse_pointerText hroot

/-- Reading a pointer and writing one are inverse to each other. -/
theorem parse_eq_ok_iff {text : String} {target : Target} :
    parse text = .ok target ↔ target.pointer = text := by
  constructor
  · intro h
    rw [pointer, pointerText_of_parse h, String.ofList_toList]
  · intro h
    rw [← h]
    exact parse_pointer target

theorem ofDocument_eq_ok_iff {document : Json} {target : Target} :
    ofDocument document = .ok target ↔ target.toDocument = document := by
  cases document with
  | string text =>
      have hdocument : ofDocument (.string text) =
          (parse text).mapError fun cause => .filter (.invalidTarget cause) := rfl
      rw [hdocument, toDocument, Json.string.injEq, ← parse_eq_ok_iff]
      cases parse text with
      | ok found =>
          constructor <;> (intro h; cases h; rfl)
      | error e =>
          constructor <;> (intro h; cases h)
  | null | bool _ | number _ | array _ | object _ =>
      constructor <;> (intro h; cases h)

/--
Segments in any number and of any characters have a pointer that is read to them.  The texts that
are read as pointers are told by their first character and their tildes, and each is the pointer
of what it is read to.  Documents lose nothing, and targets with one pointer are one target.
-/
theorem pointers_one_to_one :
    (∀ segments : List String, parse (pointer ⟨segments⟩) = .ok ⟨segments⟩) ∧
    (∀ text, (∃ target, parse text = .ok target) ↔ IsPointer text.toList) ∧
    (∀ text target, parse text = .ok target ↔ target.pointer = text) ∧
    (∀ document target, ofDocument document = .ok target ↔ target.toDocument = document) ∧
    ∀ target other : Target, target = other ↔ target.pointer = other.pointer := by
  refine ⟨fun segments => parse_pointer ⟨segments⟩, fun _ => exists_parse_iff,
    fun _ _ => parse_eq_ok_iff, fun _ _ => ofDocument_eq_ok_iff, ?_⟩
  intro target other
  constructor
  · intro h
    rw [h]
  · intro h
    have hparse := parse_pointer target
    rw [h, parse_pointer] at hparse
    exact (Except.ok.inj hparse).symm

example : parse "/~01~1/" = .ok ⟨["~1/", ""]⟩ := by rfl

end Target
end RecordFilter
