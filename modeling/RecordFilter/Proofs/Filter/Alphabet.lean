import RecordFilter.Proofs.Filter.Reread

/-!
# The alphabet of encoded text

Encoded text is meant to be put into an address, so it must not end the part of the address that
it stands in.  It is made of a few characters of ASCII, each of which has one use: most stand for
themselves, a percent sign starts an escape, a plus sign belongs to a number, and a double quote is
one of the two around a string.
-/

namespace RecordFilter

/-!
# The strings of a filter

Patterns are written like strings.
-/

namespace Literal

def strings : Literal → List String
  | string s => [s]
  | _ => []

end Literal

namespace Operand

def strings : Operand → List String
  | target _ => []
  | literal value => value.strings

end Operand

namespace Object

def strings : Object → List String
  | operand o => o.strings
  | array items => items.flatMap Literal.strings
  | range r => r.lower.toLiteral.strings ++ r.upper.toLiteral.strings
  | pattern p => [p.raw]

end Object

namespace Clause

def strings (clause : Clause) : List String :=
  clause.subject.strings ++ clause.object?.toList.flatMap Object.strings

end Clause

namespace Filter

/-- Every string and pattern in the filter, those in groups included. -/
def strings (filter : Filter) : List String :=
  filter.clauses.flatMap Clause.strings

end Filter

/-!
# Places in an encoded text

A place is given by the character that stands there and the text on both of its sides.
-/

namespace Address

open Text.Percent (encode escapeByte escapeChar isUnreserved)

def isMark (c : Char) : Bool :=
  ['/', '(', ')', '[', ']', ','].contains c

/-- What stands between the quotes of one of the strings. -/
def Content (strings : List String) (content : List Char) : Prop :=
  '"' ∉ content ∧ ∃ s ∈ strings, content = encode (Text.Quoted.body s.toList)

inductive SafeAt (numbers : List Number) (strings : List String) :
    List Char → Char → List Char → Prop where
  | unreserved {front back : List Char} {c : Char} :
      c.isAlphanum = true ∨ c ∈ ['-', '_', '.', '~'] → SafeAt numbers strings front c back
  | mark {front back : List Char} {c : Char} :
      isMark c = true → SafeAt numbers strings front c back
  | escape {front back : List Char} {high low : Char} :
      high ∈ Text.upperDigits → low ∈ Text.upperDigits →
      SafeAt numbers strings front '%' (high :: low :: back)
  | sign {n : Number} {front before after back : List Char} :
      n ∈ numbers → n.text = before ++ '+' :: after →
      SafeAt numbers strings (front ++ before) '+' (after ++ back)
  | opening {front content back : List Char} :
      Content strings content → SafeAt numbers strings front '"' (content ++ '"' :: back)
  | closing {front content back : List Char} :
      Content strings content → SafeAt numbers strings (front ++ '"' :: content) '"' back

variable {numbers : List Number} {strings : List String}

/-- More text on both sides makes no place less safe. -/
theorem SafeAt.extend {front back : List Char} {c : Char} (h : SafeAt numbers strings front c back)
    (before after : List Char) : SafeAt numbers strings (before ++ front) c (back ++ after) := by
  cases h with
  | unreserved hc =>
      exact .unreserved hc
  | mark hc =>
      exact .mark hc
  | escape hhigh hlow =>
      exact .escape hhigh hlow
  | sign hn htext =>
      rw [← List.append_assoc, List.append_assoc _ _ after]
      exact .sign hn htext
  | opening hcontent =>
      rw [List.append_assoc, List.cons_append]
      exact .opening hcontent
  | closing hcontent =>
      rw [← List.append_assoc]
      exact .closing hcontent

/-!
# Safe texts
-/

/-- Every place in the text is safe. -/
def Safe (numbers : List Number) (strings : List String) (text : List Char) : Prop :=
  ∀ front c back, text = front ++ c :: back → SafeAt numbers strings front c back

theorem safe_nil : Safe numbers strings [] := by
  intro front c back h
  cases front <;> cases h

/-- A place in two texts, one behind the other, is a place in one of them. -/
theorem place_append {left right front back : List Char} {c : Char}
    (h : left ++ right = front ++ c :: back) :
    (∃ inner, left = front ++ c :: inner ∧ back = inner ++ right) ∨
      ∃ inner, front = left ++ inner ∧ right = inner ++ c :: back := by
  rcases List.append_eq_append_iff.mp h with ⟨inner, hfront, hright⟩ | ⟨after, hleft, hback⟩
  · exact Or.inr ⟨inner, hfront, hright⟩
  · rcases List.cons_eq_append_iff.mp hback with ⟨rfl, hright⟩ | ⟨inner, rfl, hinner⟩
    · rw [List.append_nil] at hleft
      exact Or.inr ⟨[], by rw [hleft, List.append_nil], hright⟩
    · exact Or.inl ⟨inner, hleft, hinner⟩

theorem Safe.append {left right : List Char} (hleft : Safe numbers strings left)
    (hright : Safe numbers strings right) : Safe numbers strings (left ++ right) := by
  intro front c back h
  rcases place_append h with ⟨inner, hplace, rfl⟩ | ⟨inner, rfl, hplace⟩
  · exact (hleft front c inner hplace).extend [] right
  · have hextended := (hright inner c back hplace).extend left []
    rwa [List.append_nil] at hextended

theorem safe_of_forall {text : List Char}
    (h : ∀ c ∈ text, ∀ front back, SafeAt numbers strings front c back) :
    Safe numbers strings text := by
  intro front c back htext
  apply h c
  rw [htext]
  exact List.mem_append_right front List.mem_cons_self

theorem safe_mark {c : Char} (hc : isMark c = true) : Safe numbers strings [c] :=
  safe_of_forall (List.forall_mem_singleton.mpr fun _ _ => .mark hc)

theorem Safe.cons {c : Char} {text : List Char} (hc : isMark c = true)
    (h : Safe numbers strings text) : Safe numbers strings (c :: text) :=
  (safe_mark hc).append h

/-- A text of letters and digits. -/
theorem safe_word {text : List Char} (h : (text.all Char.isAlphanum) = true) :
    Safe numbers strings text :=
  safe_of_forall fun c hc _ _ => .unreserved (Or.inl (List.all_eq_true.mp h c hc))

/-!
# Escapes
-/

theorem upperHexDigit_mem {n : Nat} (h : n < 16) : Text.upperHexDigit n ∈ Text.upperDigits := by
  have hall : ∀ m < 16, Text.upperHexDigit m ∈ Text.upperDigits := by decide
  exact hall n h

theorem isAlphanum_of_mem_upperDigits {c : Char} (h : c ∈ Text.upperDigits) :
    c.isAlphanum = true := by
  have hall : (Text.upperDigits.all Char.isAlphanum) = true := by decide
  exact List.all_eq_true.mp hall c h

theorem safe_escapeByte (byte : UInt8) : Safe numbers strings (escapeByte byte) := by
  have hlt : byte.toNat < 256 := byte.toNat_lt
  have hhigh := upperHexDigit_mem (show byte.toNat / 16 < 16 by omega)
  have hlow := upperHexDigit_mem (show byte.toNat % 16 < 16 by omega)
  intro front c back h
  rcases List.cons_eq_append_iff.mp h with ⟨rfl, hplace⟩ | ⟨rest, -, hrest⟩
  · cases hplace
    exact .escape hhigh hlow
  · have hmem : c ∈ [Text.upperHexDigit (byte.toNat / 16),
        Text.upperHexDigit (byte.toNat % 16)] := by
      rw [hrest]
      exact List.mem_append_right rest List.mem_cons_self
    refine .unreserved (Or.inl (isAlphanum_of_mem_upperDigits ?_))
    rcases List.mem_cons.mp hmem with rfl | hmem
    · exact hhigh
    · rw [List.mem_singleton.mp hmem]
      exact hlow

theorem safe_escapeChar (c : Char) : Safe numbers strings (escapeChar c) := by
  unfold escapeChar
  induction String.utf8EncodeChar c with
  | nil =>
      exact safe_nil
  | cons byte bytes ih =>
      exact (safe_escapeByte byte).append ih

theorem safe_encode (text : List Char) : Safe numbers strings (encode text) := by
  induction text with
  | nil =>
      exact safe_nil
  | cons c text ih =>
      have hcons : encode (c :: text) =
          (if (!isUnreserved c) = true then escapeChar c else [c]) ++ encode text := rfl
      rw [hcons]
      refine Safe.append ?_ ih
      split
      · exact safe_escapeChar c
      · next hc =>
          refine safe_of_forall (List.forall_mem_singleton.mpr fun _ _ => .unreserved ?_)
          have hself : isUnreserved c = true := by simpa using hc
          simpa [isUnreserved, or_assoc] using hself

/-- Without strings, no place with a quote is safe. -/
theorem quote_not_mem_encode (text : List Char) : '"' ∉ encode text := by
  intro h
  rcases List.append_of_mem h with ⟨front, back, htext⟩
  have hplace : SafeAt [] [] front '"' back := safe_encode text front '"' back htext
  cases hplace with
  | unreserved hc =>
      revert hc
      decide
  | mark hc =>
      revert hc
      decide
  | opening hcontent | closing hcontent =>
      rcases hcontent with ⟨-, s, hs, -⟩
      cases hs

/-!
# Strings and numbers
-/

theorem safe_quote {s : String} (hs : s ∈ strings) :
    Safe numbers strings (Style.encoded.quote s) := by
  have hcontent : Content strings (encode (Text.Quoted.body s.toList)) :=
    ⟨quote_not_mem_encode _, s, hs, rfl⟩
  intro front c back h
  rcases place_append h with ⟨inner, hplace, rfl⟩ | ⟨inner, rfl, hplace⟩
  · rcases List.cons_eq_append_iff.mp hplace with ⟨rfl, hopen⟩ | ⟨before, rfl, hinside⟩
    · cases hopen
      exact .opening hcontent
    · exact (safe_encode _ before c inner hinside).extend ['"'] ['"']
  · rcases List.cons_eq_append_iff.mp hplace with ⟨rfl, hclose⟩ | ⟨before, -, hnil⟩
    · cases hclose
      rw [List.append_nil, ← List.nil_append ('"' :: _)]
      exact .closing hcontent
    · cases before <;> cases hnil

theorem safe_number {n : Number} (hn : n ∈ numbers) : Safe numbers strings n.text := by
  intro front c back h
  have hpart : Query.isNumberPart true c = true := by
    apply Query.isNumberPart_of_mem_text (n := n)
    rw [h]
    exact List.mem_append_right front List.mem_cons_self
  simp only [Query.isNumberPart, Query.isExponentMark, Bool.true_and, Bool.or_eq_true,
    beq_iff_eq] at hpart
  rcases hpart with ((hdigit | rfl) | rfl | rfl) | rfl | rfl
  · exact .unreserved (Or.inl (by simp [Char.isAlphanum, hdigit]))
  · exact .unreserved (Or.inr (by decide))
  · exact .unreserved (Or.inl (by decide))
  · exact .unreserved (Or.inl (by decide))
  · have hplace : SafeAt numbers strings ([] ++ front) '+' (back ++ []) := .sign hn h
    rwa [List.nil_append, List.append_nil] at hplace
  · exact .unreserved (Or.inr (by decide))

/-!
# Clauses
-/

theorem safe_space : Safe numbers strings Style.encoded.space :=
  safe_escapeByte 0x20

/-- Words between two spaces. -/
theorem safe_join {left right word : List Char} (hleft : Safe numbers strings left)
    (hword : (word.all Char.isAlphanum) = true) (hright : Safe numbers strings right) :
    Safe numbers strings
      (left ++ Style.encoded.space ++ word ++ Style.encoded.space ++ right) :=
  (((hleft.append safe_space).append (safe_word hword)).append safe_space).append hright

theorem isAlphanum_operator (operator : Operator) :
    (operator.keyword.toList.all Char.isAlphanum) = true := by
  cases operator <;> decide

theorem isAlphanum_conjunction (conjunction : Conjunction) :
    (conjunction.keyword.toList.all Char.isAlphanum) = true := by
  cases conjunction <;> decide

theorem safe_literal {value : Literal} (hnumbers : value.numbers ⊆ numbers)
    (hstrings : value.strings ⊆ strings) : Safe numbers strings (value.text .encoded) := by
  cases value with
  | nil =>
      exact safe_word (by decide)
  | boolean b =>
      cases b <;> exact safe_word (by decide)
  | number n =>
      exact safe_number (hnumbers List.mem_cons_self)
  | string s =>
      exact safe_quote (hstrings List.mem_cons_self)

theorem safe_listText {items : List Literal} (hnumbers : items.flatMap Literal.numbers ⊆ numbers)
    (hstrings : items.flatMap Literal.strings ⊆ strings) :
    Safe numbers strings (Literal.listText .encoded items) := by
  induction items with
  | nil =>
      exact safe_nil
  | cons item rest ih =>
      rw [List.flatMap_cons, List.append_subset] at hnumbers hstrings
      have hitem := safe_literal hnumbers.1 hstrings.1
      cases rest with
      | nil =>
          exact hitem
      | cons second others =>
          exact hitem.append (.cons (by decide) (ih hnumbers.2 hstrings.2))

theorem safe_target (target : Target) : Safe numbers strings (target.text .encoded) := by
  rcases target with ⟨segments⟩
  induction segments with
  | nil =>
      exact safe_nil
  | cons segment others ih =>
      exact Safe.append (.cons (by decide) (safe_encode _)) ih

theorem safe_operand {operand : Operand} (hnumbers : operand.numbers ⊆ numbers)
    (hstrings : operand.strings ⊆ strings) : Safe numbers strings (operand.text .encoded) := by
  cases operand with
  | target t =>
      exact safe_target t
  | literal value =>
      exact safe_literal hnumbers hstrings

theorem safe_object {object : Object} (hnumbers : object.numbers ⊆ numbers)
    (hstrings : object.strings ⊆ strings) : Safe numbers strings (object.text .encoded) := by
  cases object with
  | operand o =>
      exact safe_operand hnumbers hstrings
  | array items =>
      exact .cons (by decide) ((safe_listText hnumbers hstrings).append (safe_mark (by decide)))
  | range r =>
      rw [Object.numbers, List.append_subset] at hnumbers
      rw [Object.strings, List.append_subset] at hstrings
      exact (safe_literal hnumbers.1 hstrings.1).append
        (.cons (by decide) (safe_literal hnumbers.2 hstrings.2))
  | pattern p =>
      exact safe_quote (hstrings List.mem_cons_self)

theorem safe_clause {clause : Clause} (hnumbers : clause.numbers ⊆ numbers)
    (hstrings : clause.strings ⊆ strings) : Safe numbers strings (clause.text .encoded) := by
  rw [Clause.numbers, List.append_subset] at hnumbers
  rw [Clause.strings, List.append_subset] at hstrings
  have hsubject := safe_operand hnumbers.1 hstrings.1
  cases clause with
  | started subject =>
      exact hsubject
  | selected subject operator =>
      exact (hsubject.append safe_space).append (safe_word (isAlphanum_operator operator))
  | complete subject operator object =>
      have hobject : Safe numbers strings (object.text .encoded) := by
        apply safe_object
        · simpa [Clause.object?] using hnumbers.2
        · simpa [Clause.object?] using hstrings.2
      exact safe_join hsubject (isAlphanum_operator operator) hobject

/-!
# Filters
-/

mutual

theorem safe_node : ∀ {node : Node},
    (∀ clause ∈ node.clauses, Safe numbers strings (clause.text .encoded)) →
    Safe numbers strings (node.text .encoded)
  | .clause _, h => h _ (List.mem_singleton.mpr rfl)
  | .group _, h => .cons (by decide) ((safe_elements h).append (safe_mark (by decide)))

theorem safe_elements : ∀ {filter : Filter},
    (∀ clause ∈ filter.clauses, Safe numbers strings (clause.text .encoded)) →
    Safe numbers strings (filter.text .encoded)
  | .single _, h => safe_node h
  | .join _ conjunction _, h =>
      safe_join (safe_elements fun clause hclause => h clause (List.mem_append_left _ hclause))
        (isAlphanum_conjunction conjunction)
        (safe_node fun clause hclause => h clause (List.mem_append_right _ hclause))

end

theorem safe_filter (filter : Filter) :
    Safe filter.numbers filter.strings (filter.text .encoded) := by
  apply safe_elements
  intro clause hclause
  apply safe_clause
  · exact fun n hn => List.mem_flatMap.mpr ⟨clause, hclause, hn⟩
  · exact fun s hs => List.mem_flatMap.mpr ⟨clause, hclause, hs⟩

/-- What does not end the part of an address where it stands, nor the markup around the address. -/
def Harmless (c : Char) : Prop :=
  c.toNat < 0x80 ∧ Text.isBlank c = false ∧ Text.isControl c = false ∧
    c ∉ ['&', '=', '#', '?', ';', '\x27', '<', '>']

instance (c : Char) : Decidable (Harmless c) :=
  inferInstanceAs (Decidable (_ ∧ _ ∧ _ ∧ _))

theorem harmless_of_isAlphanum {c : Char} (h : c.isAlphanum = true) : Harmless c := by
  have hpoint : c.toNat < 0x80 := by
    delta Char.isAlphanum Char.isAlpha Char.isUpper Char.isLower at h
    simp only [Char.isDigit, Bool.or_eq_true, Bool.and_eq_true, decide_eq_true_eq,
      UInt32.le_iff_toNat_le] at h
    have hvalue : c.val.toNat = c.toNat := rfl
    rcases h with (⟨_, h⟩ | ⟨_, h⟩) | ⟨_, h⟩
    all_goals
      rw [hvalue] at h
      exact Nat.lt_of_le_of_lt h (by decide)
  have hall : ∀ point < 0x80, (Char.ofNat point).isAlphanum = true →
      Harmless (Char.ofNat point) := by
    decide +kernel
  have hharmless := hall c.toNat hpoint
  rw [Char.ofNat_toNat] at hharmless
  exact hharmless h

theorem SafeAt.harmless {front back : List Char} {c : Char}
    (h : SafeAt numbers strings front c back) : Harmless c := by
  cases h with
  | unreserved hc =>
      have hall : (['-', '_', '.', '~'].all fun d => decide (Harmless d)) = true := by decide
      exact hc.elim harmless_of_isAlphanum fun hmem =>
        of_decide_eq_true (List.all_eq_true.mp hall c hmem)
  | mark hc =>
      have hall : (['/', '(', ')', '[', ']', ','].all fun d => decide (Harmless d)) = true := by
        decide
      exact of_decide_eq_true (List.all_eq_true.mp hall c (List.contains_iff_mem.mp hc))
  | escape _ _ | sign _ _ | opening _ | closing _ =>
      decide

/--
Whatever the strings and keys of a filter are, every character of its encoded text is a letter, a
digit or a mark of ASCII that is safe where it stands: percent signs start escapes, plus signs
belong to numbers of the filter, and quotes are those around its strings and patterns.
-/
theorem encoded_alphabet (filter : Filter) :
    (∀ front c back, (filter.query .encoded).toList = front ++ c :: back →
      SafeAt filter.numbers filter.strings front c back) ∧
    ∀ c ∈ (filter.query .encoded).toList, Harmless c := by
  have hsafe : Safe filter.numbers filter.strings (filter.query .encoded).toList := by
    rw [Filter.query, String.toList_ofList]
    exact safe_filter filter
  refine ⟨hsafe, ?_⟩
  intro c hc
  rcases List.append_of_mem hc with ⟨front, back, htext⟩
  exact (hsafe front c back htext).harmless

/-- Ten to the 16th power, which is written with a plus sign. -/
def tenQuadrillion : Number :=
  .float ⟨false, ⟨5000000000000000, 1⟩, by decide⟩

def risky : Filter :=
  .single (.clause (.complete (.target ⟨["&a b"]⟩) .isIn
    (.array [.string "\"é", .number tenQuadrillion])))

theorem encoded_alphabet_risky :
    (risky.query .encoded).toList =
      "/%26a%20b%20in%20[\"%5C%22%C3%A9\",1e".toList ++ '+' :: ['1', '6', ']'] ∧
    SafeAt [tenQuadrillion] ["\"é"]
      "/%26a%20b%20in%20[\"%5C%22%C3%A9\",1e".toList '+' ['1', '6', ']'] := by
  have htext : (risky.query .encoded).toList =
      "/%26a%20b%20in%20[\"%5C%22%C3%A9\",1e".toList ++ '+' :: ['1', '6', ']'] := by
    rw [Filter.query, String.toList_ofList]
    decide +kernel
  exact ⟨htext, (encoded_alphabet risky).1 _ _ _ htext⟩

end Address
end RecordFilter
