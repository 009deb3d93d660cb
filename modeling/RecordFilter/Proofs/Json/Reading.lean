import Mathlib.Data.List.TakeWhile
import RecordFilter.Proofs.Json.UniqueKeys
import RecordFilter.Proofs.Text.Runs

/-!
# Reading in front of more text

What stands behind a blank has no part in reading the value in front of it.  Every reader is of
this kind: it takes off a longer text what it takes off the text alone, and leaves what was added
where it is.  Only words and numbers need the blank, since strings and containers close themselves.
-/

namespace RecordFilter
namespace Json

/-- Text that no word and no number goes on into: it is empty or starts with a blank. -/
def Parted (more : List Char) : Prop :=
  ∀ c ∈ more.head?, isBlank c = true

/--
What the first reader takes off a text, `least` characters or more, the second one takes off the
text with more behind it.
-/
def Continues {α : Type} (least : Nat) (reader other : Reader α) : Prop :=
  ∀ text value rest, reader text = .ok (value, rest) →
    rest.length + least ≤ text.length ∧
      ∀ more, Parted more → other (text ++ more) = .ok (value, rest ++ more)

abbrev Steady {α : Type} (least : Nat) (reader : Reader α) : Prop :=
  Continues least reader reader

theorem isBlank_iff {c : Char} : isBlank c = true ↔ c = ' ' ∨ c = '\n' ∨ c = '\t' ∨ c = '\r' := by
  simp only [isBlank, Bool.or_eq_true, beq_iff_eq, or_assoc]

theorem Parted.apart {more : List Char} (h : Parted more) {p : Char → Bool}
    (hp : ([' ', '\n', '\t', '\r'].all fun c => !p c) = true) : ∀ c ∈ more.head?, p c = false := by
  intro c hc
  have hmem : c ∈ [' ', '\n', '\t', '\r'] := by simpa using isBlank_iff.mp (h c hc)
  exact Bool.eq_false_of_not_eq_true' (List.all_eq_true.mp hp c hmem)

theorem Parted.append_ne_cons {text more : List Char} {c : Char} (h : Parted more)
    (hc : isBlank c = false) (htext : ∀ after, text ≠ c :: after) (after : List Char) :
    text ++ more ≠ c :: after := by
  cases text with
  | nil =>
      rintro rfl
      rw [h c rfl] at hc
      cases hc
  | cons d text =>
      intro hcons
      cases hcons
      exact htext _ rfl

/-!
# Composed readers
-/

section Composed

variable {α β : Type} {least : Nat}

theorem steady_pure (value : α) : Steady 0 fun rest => .ok (value, rest) := by
  intro text value rest h
  cases h
  exact ⟨le_rfl, fun _ _ => rfl⟩

theorem continues_error (e : ReadError) (other : Reader α) :
    Continues least (fun _ => .error e) other := by
  intro text value rest h
  cases h

theorem steady_error (e : ReadError) :
    Steady least fun _ => (.error e : Except ReadError (α × List Char)) :=
  continues_error e _

namespace Continues

variable {first first' : Reader α}

theorem weaken (h : Continues least first first') : Continues 0 first first' := by
  intro text value rest hread
  rcases h text value rest hread with ⟨hlength, hmore⟩
  exact ⟨(Nat.le_add_right _ _).trans hlength, hmore⟩

theorem ite {second second' : Reader α} (p : Prop) [Decidable p]
    (hfirst : Continues least first first') (hsecond : Continues least second second') :
    Continues least (fun text => if p then first text else second text)
      fun text => if p then first' text else second' text := by
  by_cases hp : p
  · simpa only [if_pos hp] using hfirst
  · simpa only [if_neg hp] using hsecond

theorem bind {next next' : α × List Char → Except ReadError (β × List Char)}
    (hfirst : Continues least first first')
    (hnext : ∀ value, Continues 0 (fun rest => next (value, rest)) fun rest => next' (value, rest)) :
    Continues least (fun text => first text >>= next) fun text => first' text >>= next' := by
  intro text value rest h
  rcases of_bind_eq_ok h with ⟨⟨found, after⟩, hread, hrest⟩
  rcases hfirst _ _ _ hread with ⟨hshorter, hbehind⟩
  rcases hnext _ _ _ _ hrest with ⟨hshortest, hfound⟩
  refine ⟨(Nat.add_le_add_right hshortest _).trans hshorter, fun more hmore => ?_⟩
  simp only [hbehind more hmore]
  exact hfound more hmore

theorem map (h : Continues least first first') (f : α → β) :
    Continues least (fun text => first text >>= fun read => .ok (f read.1, read.2))
      fun text => first' text >>= fun read => .ok (f read.1, read.2) :=
  h.bind fun value => steady_pure (f value)

/-- A character that is put back in front of the text. -/
theorem cons (c : Char) (h : Continues (least + 1) first first') :
    Continues least (fun rest => first (c :: rest)) fun rest => first' (c :: rest) := by
  intro text value rest hread
  rcases h _ _ _ hread with ⟨hlength, hmore⟩
  exact ⟨Nat.le_of_succ_le_succ hlength, hmore⟩

end Continues

end Composed

/-!
# Blanks
-/

theorem skipBlank_append {text rest : List Char} {c : Char} (h : skipBlank text = c :: rest)
    (more : List Char) : skipBlank (text ++ more) = c :: (rest ++ more) := by
  unfold skipBlank at h ⊢
  rw [List.dropWhile_append, h]
  rfl

theorem length_of_skipBlank {text rest : List Char} {c : Char} (h : skipBlank text = c :: rest) :
    rest.length < text.length := by
  have hlength := text.length_dropWhile_le isBlank
  rw [← skipBlank, h] at hlength
  exact hlength

/-!
# Strings
-/

/-- A part of the body of a string, and the character that it stands for. -/
inductive Piece : List Char → Char → Prop where
  | plain {c : Char} : c ≠ '"' → c ≠ '\\' → ¬c.toNat < 0x20 → Piece [c] c
  | escape {e c : Char} : simpleEscape? e = some c → Piece ['\\', e] c
  | unit {h₁ h₂ h₃ h₄ : Char} {unit : Nat} :
      Text.readHex? [h₁, h₂, h₃, h₄] = some unit → ¬isTrailing unit → ¬isLeading unit →
      Piece ['\\', 'u', h₁, h₂, h₃, h₄] (Char.ofNat unit)
  | pair {h₁ h₂ h₃ h₄ l₁ l₂ l₃ l₄ : Char} {leading trailing : Nat} :
      Text.readHex? [h₁, h₂, h₃, h₄] = some leading → ¬isTrailing leading → isLeading leading →
      Text.readHex? [l₁, l₂, l₃, l₄] = some trailing → isTrailing trailing →
      Piece ['\\', 'u', h₁, h₂, h₃, h₄, '\\', 'u', l₁, l₂, l₃, l₄]
        (Char.ofNat (pairedPoint leading trailing))

/-- A string behind its opening quote, with what it stands for and the text behind it. -/
inductive Closes : List Char → List Char → List Char → Prop where
  | quote (rest : List Char) : Closes ('"' :: rest) [] rest
  | piece {piece text content rest : List Char} {c : Char} :
      Piece piece c → Closes text content rest → Closes (piece ++ text) (c :: content) rest

theorem readText_piece {piece : List Char} {c : Char} (h : Piece piece c) (rest : List Char) :
    readText (piece ++ rest) = push c (readText rest) := by
  cases h with
  | plain hquote hbackslash hcontrol =>
      rw [List.singleton_append, readText.eq_def (c :: rest)]
      simp only [if_neg hquote, if_neg hbackslash, if_neg hcontrol]
  | @escape e _ hescape =>
      have hu : e ≠ 'u' := by
        rintro rfl
        cases hescape
      simp [readText, hu, hescape]
  | unit hread htrailing hleading =>
      simp [readText, hread, htrailing, hleading]
  | pair hread htrailing hleading hlow hpaired =>
      simp [readText, hread, htrailing, hleading, hlow, hpaired]

theorem exists_of_push {c : Char} {result : Except ReadError (List Char × List Char)}
    {content rest : List Char} (h : push c result = .ok (content, rest)) :
    ∃ others, result = .ok (others, rest) ∧ content = c :: others := by
  cases result with
  | error e => cases h
  | ok read =>
      cases h
      exact ⟨_, rfl, rfl⟩

theorem Closes.of_push {piece text content rest : List Char} {c : Char}
    (h : push c (readText text) = .ok (content, rest)) (hpiece : Piece piece c)
    (ih : ∀ {content rest}, readText text = .ok (content, rest) → Closes text content rest) :
    Closes (piece ++ text) content rest := by
  rcases exists_of_push h with ⟨others, hothers, rfl⟩
  exact .piece hpiece (ih hothers)

theorem readText_eq_ok_iff {text content rest : List Char} :
    readText text = .ok (content, rest) ↔ Closes text content rest := by
  constructor
  · intro h
    -- The cases that are named are those where the scan goes on or ends well.
    fun_induction readText text generalizing content rest with
    | case2 after =>
        cases h
        exact .quote _
    | case7 _ _ _ _ _ hread htrailing hleading _ _ _ _ _ _ hlow hpaired _ ih =>
        exact Closes.of_push h (.pair hread htrailing hleading hlow hpaired) ih
    | case13 _ _ _ _ _ _ hread htrailing hleading _ ih =>
        exact Closes.of_push h (.unit hread htrailing hleading) ih
    | case15 _ _ _ _ _ hescape _ ih =>
        exact Closes.of_push h (.escape hescape) ih
    | case18 _ _ hquote hbackslash hcontrol ih =>
        exact Closes.of_push h (.plain hquote hbackslash hcontrol) ih
    | case1 | case3 | case4 | case5 | case6 | case8 | case9 | case10 | case11 | case12 | case14
    | case16 | case17 => cases h
  · intro h
    induction h with
    | quote rest =>
        unfold readText
        rw [if_pos rfl]
    | piece hpiece _ ih =>
        rw [readText_piece hpiece, ih]
        rfl

theorem Closes.append {text content rest : List Char} (h : Closes text content rest)
    (more : List Char) : Closes (text ++ more) content (rest ++ more) := by
  induction h with
  | quote rest => exact .quote _
  | piece hpiece _ ih =>
      rw [List.append_assoc]
      exact .piece hpiece ih

theorem Closes.length_lt {text content rest : List Char} (h : Closes text content rest) :
    rest.length < text.length := by
  induction h with
  | quote rest => exact Nat.lt_succ_self _
  | piece _ _ ih =>
      rw [List.length_append]
      exact Nat.lt_add_left _ ih

theorem steady_readString : Steady 1 readString := by
  have htext : Steady 1 readText := by
    intro text content rest h
    have hcloses := readText_eq_ok_iff.mp h
    exact ⟨hcloses.length_lt, fun more _ => readText_eq_ok_iff.mpr (hcloses.append more)⟩
  exact htext.map String.ofList

/-!
# Numbers

A numeral ends with the run of its last digits, so a blank keeps it as it is.
-/

section Digits

variable {more : List Char} (hmore : Parted more)
include hmore

theorem takeWhile_isDigit_append (text : List Char) :
    (text ++ more).takeWhile Char.isDigit = text.takeWhile Char.isDigit :=
  Text.takeWhile_append_of_head (hmore.apart (by decide)) text

theorem dropWhile_isDigit_append (text : List Char) :
    (text ++ more).dropWhile Char.isDigit = text.dropWhile Char.isDigit ++ more :=
  Text.dropWhile_append_of_head (hmore.apart (by decide)) text

theorem readExponentSign_append (text : List Char) :
    Numeral.readExponentSign (text ++ more) =
      ((Numeral.readExponentSign text).1, (Numeral.readExponentSign text).2 ++ more) := by
  cases text with
  | nil =>
      cases more with
      | nil => rfl
      | cons c more =>
          rcases isBlank_iff.mp (hmore c rfl) with rfl | rfl | rfl | rfl <;> rfl
  | cons c text =>
      unfold Numeral.readExponentSign
      split <;> simp_all

end Digits

theorem length_readExponentSign_le (text : List Char) :
    (Numeral.readExponentSign text).2.length ≤ text.length := by
  unfold Numeral.readExponentSign
  split
  · exact Nat.le_succ _
  · exact Nat.le_succ _
  · exact le_rfl

theorem steady_readWhole : Steady 1 Numeral.readWhole := by
  intro text whole rest h
  have hlength : (text.takeWhile Char.isDigit).length + (text.dropWhile Char.isDigit).length =
      text.length := by
    rw [← List.length_append, List.takeWhile_append_dropWhile]
  unfold Numeral.readWhole at h
  split at h
  · cases h
  · next hdigits =>
      cases h
      rw [hdigits, List.length_singleton] at hlength
      refine ⟨by omega, fun more hmore => ?_⟩
      rw [Numeral.readWhole, takeWhile_isDigit_append hmore, dropWhile_isDigit_append hmore, hdigits]
      rfl
  · cases h
  · next hnone hzero hleading =>
      cases h
      have hpos := List.length_pos_iff.mpr hnone
      refine ⟨by omega, fun more hmore => ?_⟩
      rw [Numeral.readWhole, takeWhile_isDigit_append hmore, dropWhile_isDigit_append hmore]
      split
      · contradiction
      · contradiction
      · next hmany => exact (hleading _ _ hmany).elim
      · rfl

theorem steady_readFraction : Steady 0 Numeral.readFraction := by
  intro text fraction rest h
  unfold Numeral.readFraction at h
  split at h
  · next text =>
      have hlength := text.length_dropWhile_le Char.isDigit
      split at h
      · cases h
      · next hnone =>
          cases h
          refine ⟨Nat.le_succ_of_le hlength, fun more hmore => ?_⟩
          rw [List.cons_append, Numeral.readFraction, takeWhile_isDigit_append hmore,
            dropWhile_isDigit_append hmore]
          split
          · contradiction
          · rfl
  · next hpoint =>
      cases h
      refine ⟨le_rfl, fun more hmore => ?_⟩
      unfold Numeral.readFraction
      split
      · next hc => exact (hmore.append_ne_cons rfl hpoint _ hc).elim
      · rfl

theorem steady_readExponent : Steady 0 Numeral.readExponent := by
  intro text exponent rest h
  unfold Numeral.readExponent at h
  split at h
  · cases h
    refine ⟨le_rfl, fun more hmore => ?_⟩
    cases more with
    | nil => rfl
    | cons c more =>
        rcases isBlank_iff.mp (hmore c rfl) with rfl | rfl | rfl | rfl <;> rfl
  · next c text =>
      split at h
      · next hmark =>
          have hsign := length_readExponentSign_le text
          have hdigits := (Numeral.readExponentSign text).2.length_dropWhile_le Char.isDigit
          simp only at h
          split at h
          · cases h
          · cases h
            refine ⟨Nat.le_succ_of_le (hdigits.trans hsign), fun more hmore => ?_⟩
            rw [List.cons_append, Numeral.readExponent, if_pos hmark, readExponentSign_append hmore]
            simp only [takeWhile_isDigit_append hmore, dropWhile_isDigit_append hmore]
      · next hmark =>
          cases h
          refine ⟨le_rfl, fun more hmore => ?_⟩
          rw [List.cons_append, Numeral.readExponent, if_neg hmark]

theorem steady_readUnsigned (negative : Bool) : Steady 1 (Numeral.readUnsigned negative) :=
  steady_readWhole.bind fun _ => steady_readFraction.bind fun _ =>
    steady_readExponent.bind fun _ => steady_pure _

theorem steady_readNumeral : Steady 1 Numeral.read := by
  intro text numeral rest h
  unfold Numeral.read at h
  split at h
  · rcases steady_readUnsigned true _ _ _ h with ⟨hlength, hmore⟩
    exact ⟨Nat.le_succ_of_le hlength, hmore⟩
  · next hminus =>
      rcases steady_readUnsigned false _ _ _ h with ⟨hlength, hmore⟩
      refine ⟨hlength, fun more hparted => ?_⟩
      unfold Numeral.read
      split
      · next hc => exact (hparted.append_ne_cons rfl hminus _ hc).elim
      · exact hmore more hparted

theorem steady_readNumber : Steady 1 Number.read := by
  apply steady_readNumeral.bind
  intro numeral
  dsimp only
  cases numeral.number? with
  | none => exact steady_error _
  | some number => exact steady_pure number

/-!
# Words and members
-/

theorem steady_readWord (value : Json) (word : List Char) : Steady 0 (readWord value word) := by
  induction word with
  | nil => exact steady_pure value
  | cons c word ih =>
      intro text result rest h
      cases text with
      | nil => cases h
      | cons d text =>
          rw [readWord] at h
          split at h
          · next hsame =>
              rcases ih _ _ _ h with ⟨hlength, hmore⟩
              refine ⟨Nat.le_succ_of_le hlength, fun more hparted => ?_⟩
              rw [List.cons_append, readWord, if_pos hsame, hmore more hparted]
          · cases h

theorem steady_readKey : Steady 1 readKey := by
  intro text key rest h
  unfold readKey at h
  split at h
  · cases h
  · next c after hskip =>
      have hshorter := length_of_skipBlank hskip
      have hnext := Continues.ite (c = '"') steady_readString (steady_error .malformed)
      rcases hnext _ _ _ h with ⟨hlength, hmore⟩
      refine ⟨by omega, fun more hparted => ?_⟩
      rw [readKey, skipBlank_append hskip]
      exact hmore more hparted

theorem Continues.behindColon {α : Type} {next next' : Reader α} (h : Continues 0 next next') :
    Continues 0 (fun text => readColon text >>= next) fun text => readColon text >>= next' := by
  intro text value rest hread
  rcases of_bind_eq_ok hread with ⟨after, hcolon, hnext⟩
  rcases h _ _ _ hnext with ⟨hlength, hmore⟩
  unfold readColon at hcolon
  split at hcolon
  · cases hcolon
  · next c left hskip =>
      split at hcolon
      · next hc =>
          cases hcolon
          have hshorter := length_of_skipBlank hskip
          refine ⟨by omega, fun more hparted => ?_⟩
          simp only [readColon, skipBlank_append hskip, if_pos hc]
          exact hmore more hparted
      · cases hcolon

/-!
# Arrays and objects

More text means more rounds.  So the induction on the rounds compares a reader with one that has
as many rounds or more.
-/

section Items

variable {item : Reader Json} (hitem : Steady 1 item)
include hitem

theorem continues_readItems {rounds further : Nat} (h : rounds ≤ further) :
    Continues 1 (readItems item rounds) (readItems item further) := by
  induction rounds generalizing further with
  | zero => exact continues_error .endOfText _
  | succ rounds ih =>
      cases further with
      | zero => cases h
      | succ further =>
          have hothers := ih (Nat.le_of_succ_le_succ h)
          apply hitem.bind
          intro first text items rest h
          dsimp only at h
          split at h
          · cases h
          · next c after hskip =>
              have hshorter := length_of_skipBlank hskip
              have hnext := Continues.ite (c = ']') (steady_pure [first]) <|
                Continues.ite (c = ',') (hothers.map (first :: ·)).weaken (steady_error .malformed)
              rcases hnext _ _ _ h with ⟨hlength, hmore⟩
              refine ⟨by omega, fun more hparted => ?_⟩
              simp only [skipBlank_append hskip]
              exact hmore more hparted

theorem continues_readMembers {rounds further : Nat} (h : rounds ≤ further) :
    Continues 1 (readMembers item rounds) (readMembers item further) := by
  induction rounds generalizing further with
  | zero => exact continues_error .endOfText _
  | succ rounds ih =>
      cases further with
      | zero => cases h
      | succ further =>
          have hothers := ih (Nat.le_of_succ_le_succ h)
          refine steady_readKey.bind fun key => Continues.behindColon ?_
          refine (hitem.bind fun value => ?_).weaken
          intro text members rest h
          dsimp only at h
          split at h
          · cases h
          · next c after hskip =>
              have hshorter := length_of_skipBlank hskip
              have hnext := Continues.ite (c = '\x7d') (steady_pure [(key, value)]) <|
                Continues.ite (c = ',') (hothers.map ((key, value) :: ·)).weaken
                  (steady_error .malformed)
              rcases hnext _ _ _ h with ⟨hlength, hmore⟩
              refine ⟨by omega, fun more hparted => ?_⟩
              simp only [skipBlank_append hskip]
              exact hmore more hparted

theorem steady_readArray : Steady 1 (readArray item) := by
  intro text value rest h
  unfold readArray at h
  split at h
  · cases h
  · next c after hskip =>
      have hshorter := length_of_skipBlank hskip
      have hnext : ∀ further, text.length ≤ further → Continues 0 _ _ := fun further hrounds =>
        Continues.ite (c = ']') (steady_pure (array [])) <|
          ((continues_readItems hitem hrounds).map array).cons c
      have hlength := (hnext _ le_rfl _ _ _ h).1
      refine ⟨by omega, fun more hmore => ?_⟩
      simp only [readArray, skipBlank_append hskip]
      exact (hnext (text ++ more).length (by simp) _ _ _ h).2 more hmore

theorem steady_readObject : Steady 1 (readObject item) := by
  intro text value rest h
  unfold readObject at h
  split at h
  · cases h
  · next c after hskip =>
      have hshorter := length_of_skipBlank hskip
      have hnext : ∀ further, text.length ≤ further → Continues 0 _ _ := fun further hrounds =>
        Continues.ite (c = '\x7d') (steady_pure (object [])) <|
          ((continues_readMembers hitem hrounds).map fun written =>
            object (Members.ofList written)).cons c
      have hlength := (hnext _ le_rfl _ _ _ h).1
      refine ⟨by omega, fun more hmore => ?_⟩
      simp only [readObject, skipBlank_append hskip]
      exact (hnext (text ++ more).length (by simp) _ _ _ h).2 more hmore

end Items

/-!
# Values and records
-/

theorem steady_readWith {array object : Reader Json} (harray : Steady 0 array)
    (hobject : Steady 0 object) : Steady 1 (readWith array object) := by
  intro text value rest h
  unfold readWith at h
  split at h
  · cases h
  · next c after hskip =>
      have hshorter := length_of_skipBlank hskip
      have hnext :=
        Continues.ite (c = '"') (steady_readString.map Json.string).weaken <|
        Continues.ite (c = '-' ∨ c.isDigit) ((steady_readNumber.map Json.number).cons c) <|
        Continues.ite (c = 'n') (steady_readWord .null ['u', 'l', 'l']) <|
        Continues.ite (c = 't') (steady_readWord (.bool true) ['r', 'u', 'e']) <|
        Continues.ite (c = 'f') (steady_readWord (.bool false) ['a', 'l', 's', 'e']) <|
        Continues.ite (c = '[') harray <|
        Continues.ite (c = '\x7b') hobject (steady_error .malformed)
      rcases hnext _ _ _ h with ⟨hlength, hmore⟩
      refine ⟨by omega, fun more hparted => ?_⟩
      simp only [readWith, skipBlank_append hskip]
      exact hmore more hparted

theorem steady_readNested (depth : Nat) : Steady 1 (readNested depth) := by
  induction depth with
  | zero => exact steady_readWith (steady_error _) (steady_error _)
  | succ depth ih => exact steady_readWith (steady_readArray ih).weaken (steady_readObject ih).weaken

theorem isDelimited_append {text : List Char} (h : isDelimited text = true) (more : List Char) :
    isDelimited (text ++ more) = true := by
  unfold isDelimited at h ⊢
  split at h
  · next hskip =>
      rw [skipBlank_append hskip]
      exact h
  · cases h

theorem endsBare_append {rest more : List Char} (h : endsBare rest = true) (hmore : Parted more) :
    endsBare (rest ++ more) = true := by
  cases rest with
  | nil =>
      cases more with
      | nil => rfl
      | cons c more =>
          rcases isBlank_iff.mp (hmore c rfl) with rfl | rfl | rfl | rfl <;> rfl
  | cons c rest => exact h

theorem steady_readRecord : Steady 1 readRecord := by
  intro text value rest h
  unfold readRecord at h
  rcases of_bind_eq_ok h with ⟨⟨found, after⟩, hread, hends⟩
  rcases steady_readNested maxDepth _ _ _ hread with ⟨hlength, hmore⟩
  simp only at hends
  split at hends
  · next hend =>
      cases hends
      refine ⟨hlength, fun more hparted => ?_⟩
      have hends : (isDelimited (text ++ more) || endsBare (rest ++ more)) = true := by
        rcases Bool.or_eq_true_iff.mp hend with hdelimited | hbare
        · rw [isDelimited_append hdelimited, Bool.true_or]
        · rw [endsBare_append hbare hparted, Bool.or_true]
      rw [readRecord, readValue, hmore more hparted]
      exact if_pos hends
  · cases hends

end Json
end RecordFilter
