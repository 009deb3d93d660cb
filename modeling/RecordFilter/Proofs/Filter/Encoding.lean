import RecordFilter.Proofs.Filter.Formatting
import RecordFilter.Proofs.Query.BareTargets

/-!
# Encoded text

Reading the escapes of an encoded text gives the canonical text back, but with bare pointers: the
escapes of a target stand for its pointer, where a query needs escapes of its own.  So the filter
is found again exactly if no pointer in it needs any.
-/

namespace RecordFilter

open Text.Percent (Decodes decodes_escapeWhere decodes_nil decodes_plain)

/-!
# What encoded text stands for
-/

namespace Style

theorem decodes_space : Decodes encoded.space [' '] :=
  Text.Percent.bytes_escapeByte 0x20

theorem decodes_encode (text : List Char) : Decodes (Text.Percent.encode text) text :=
  decodes_escapeWhere (by decide) text

theorem decodes_quote (s : String) : Decodes (encoded.quote s) (plain.quote s) :=
  ((decodes_encode _).append (decodes_plain (by decide))).cons (by decide)

/-- Words and marks have no percent sign in them, so they stand for themselves. -/
theorem decodes_join {front back front' back' : List Char} {word : String}
    (hword : '%' ∉ word.toList) (hfront : Decodes front front') (hback : Decodes back back') :
    Decodes (front ++ encoded.space ++ word.toList ++ encoded.space ++ back)
      (front' ++ ' ' :: (word.toList ++ ' ' :: back')) := by
  have hjoined := (((hfront.append decodes_space).append (decodes_plain hword)).append
    decodes_space).append hback
  simpa using hjoined

end Style

namespace Literal

theorem decodes_text (value : Literal) : Decodes (value.text .encoded) (value.text .plain) := by
  cases value with
  | nil =>
      exact decodes_plain (by decide)
  | boolean b =>
      cases b <;> exact decodes_plain (by decide)
  | number n =>
      exact decodes_plain (Query.percent_not_mem_text n)
  | string s =>
      exact Style.decodes_quote s

theorem decodes_listText (items : List Literal) :
    Decodes (listText .encoded items) (listText .plain items) := by
  induction items with
  | nil =>
      exact decodes_nil
  | cons item rest ih =>
      cases rest with
      | nil =>
          exact item.decodes_text
      | cons second others =>
          exact item.decodes_text.append (ih.cons (by decide))

end Literal

namespace Operand

theorem decodes_text (operand : Operand) :
    Decodes (operand.text .encoded) (operand.written Target.pointerText) := by
  cases operand with
  | target t =>
      exact Query.decodes_targetText t .encoded
  | literal value =>
      exact value.decodes_text

end Operand

namespace Object

theorem decodes_text (object : Object) :
    Decodes (object.text .encoded) (object.written Target.pointerText) := by
  cases object with
  | operand o =>
      exact o.decodes_text
  | array items =>
      exact ((Literal.decodes_listText items).append (decodes_plain (by decide))).cons (by decide)
  | range r =>
      exact r.lower.toLiteral.decodes_text.append (r.upper.toLiteral.decodes_text.cons (by decide))
  | pattern p =>
      exact Style.decodes_quote p.raw

end Object

namespace Clause

theorem decodes_text (clause : Clause) :
    Decodes (clause.text .encoded) (clause.written Target.pointerText) := by
  have hkeyword : ∀ operator : Operator, '%' ∉ operator.keyword.toList := by
    intro operator
    cases operator <;> decide
  cases clause with
  | started subject =>
      exact subject.decodes_text
  | selected subject operator =>
      have hselected := (subject.decodes_text.append Style.decodes_space).append
        (decodes_plain (hkeyword operator))
      simpa [text, written] using hselected
  | complete subject operator object =>
      exact Style.decodes_join (hkeyword operator) subject.decodes_text object.decodes_text

end Clause

mutual

theorem Node.decodes_text : ∀ node : Node,
    Decodes (node.text .encoded) (node.written Target.pointerText)
  | .clause clause => clause.decodes_text
  | .group filter =>
      ((Filter.decodes_text filter).append (decodes_plain (by decide))).cons (by decide)

theorem Filter.decodes_text : ∀ filter : Filter,
    Decodes (filter.text .encoded) (filter.written Target.pointerText)
  | .single node => Node.decodes_text node
  | .join left conjunction node => by
      have hword : '%' ∉ conjunction.keyword.toList := by
        cases conjunction <;> decide
      exact Style.decodes_join hword (Filter.decodes_text left) (Node.decodes_text node)

end

namespace Filter

open Query (Writable not_isRoot_of_printable parse_written spelled_pointer_iff tracks_pointer
  writable_iff writable_of_parse)

/-!
# Filters of encoded text
-/

theorem decode?_query_encoded (filter : Filter) :
    Text.Percent.decode? (filter.query .encoded).toList =
      some (filter.written Target.pointerText) := by
  rw [query, String.toList_ofList]
  exact filter.decodes_text.decode?

theorem writable_pointer_iff {filter : Filter}
    (hprintable : ∀ clause ∈ filter.clauses, clause.Printable) (hlegible : filter.Legible) :
    Writable Target.pointerText filter.clauses ↔ ∀ t ∈ filter.targets, t.Bare := by
  have hroot := not_isRoot_of_printable hprintable
  rw [writable_iff hprintable]
  constructor
  · intro h t ht
    exact (spelled_pointer_iff (hroot t ht)).mp (h.1 t ht)
  · intro h
    exact ⟨fun t ht => (spelled_pointer_iff (hroot t ht)).mpr (h t ht), hlegible⟩

/--
A filter of texts and builder calls, with floats that read back and groups that nest at most 128
deep, is found again from its encoded text exactly if the pointers of its targets are bare.
-/
theorem parse_decoded_query_iff {filter : Filter} (hbuilt : Built OfText filter)
    (hdepth : filter.depth ≤ 128)
    (hfloats : ∀ x, Number.float x ∈ filter.numbers → (Number.float x).ReadsBack) :
    (∃ text parsed, Text.Percent.decode? (filter.query .encoded).toList = some text ∧
      Filter.parse (String.ofList text) = .ok parsed ∧ (parsed == filter) = true) ↔
      ∀ t ∈ filter.targets, t.Bare := by
  have hprintable := printable_of_built hbuilt
  rcases reread_of_floats hfloats with ⟨hlegible, hreread⟩
  rw [decode?_query_encoded, ← writable_pointer_iff hprintable hlegible]
  constructor
  · intro h
    rcases h with ⟨text, parsed, htext, hparse, hsame⟩
    rw [← Option.some.inj htext] at hparse
    exact writable_of_parse tracks_pointer hprintable hparse (targets_eq_of_same hsame)
  · intro hwritable
    have hparse := parse_written hwritable hdepth
    rw [hreread] at hparse
    exact ⟨_, filter, rfl, hparse, filter.same_self⟩

/-!
# Pointers with and without escapes
-/

def named (key : String) (value : Literal) : Filter :=
  single (.clause (.complete (.target ⟨[key]⟩) .eq (.operand (.literal value))))

theorem built_named {pointer key : String}
    (h : Clause.ofTarget pointer = .ok (.started (.target ⟨[key]⟩))) (value : Literal) :
    Built OfText (named key value) := by
  have hbind : (Clause.selected (.target ⟨[key]⟩) .eq).bindLiteral value =
      .ok (.complete (.target ⟨[key]⟩) .eq (.operand (.literal value))) := rfl
  exact .ofClause (.bindLiteral (.select (.ofTarget h) rfl) hbind) rfl

theorem parse_decoded_query_iff_named :
    ∃ text parsed, Text.Percent.decode? ((named "a" (.string "x y")).query .encoded).toList =
        some text ∧
      Filter.parse (String.ofList text) = .ok parsed ∧
      (parsed == named "a" (.string "x y")) = true := by
  have htarget : Clause.ofTarget "/a" = .ok (.started (.target ⟨["a"]⟩)) := by rfl
  have hbuilt := built_named htarget (.string "x y")
  have hfloats : ∀ x, Number.float x ∈ (named "a" (.string "x y")).numbers →
      (Number.float x).ReadsBack := by
    intro x hx
    cases hx
  have hbare : Target.Bare ⟨["a"]⟩ := by
    have hdelimiters : ∀ c ∈ ['/', 'a'], Query.isDelimiter c = false :=
      List.forall_mem_cons.mpr ⟨by decide, List.forall_mem_singleton.mpr (by decide)⟩
    exact ⟨hdelimiters, (decodes_plain (by decide)).decode?⟩
  refine (parse_decoded_query_iff hbuilt (by decide) hfloats).mpr ?_
  exact List.forall_mem_singleton.mpr hbare

/-- An escape in a pointer is read as one when the encoded text has been read. -/
theorem parse_decoded_escape :
    Built OfText (named "%41" .nil) ∧ (named "%41" .nil).depth = 0 ∧
    (named "%41" .nil).numbers = [] ∧
    ∃ text, Text.Percent.decode? ((named "%41" .nil).query .encoded).toList = some text ∧
      Filter.parse (String.ofList text) = .ok (named "A" .nil) ∧
      (named "A" .nil == named "%41" .nil) = false := by
  have htarget : Clause.ofTarget "/%41" = .ok (.started (.target ⟨["%41"]⟩)) := by rfl
  refine ⟨built_named htarget .nil, rfl, rfl, _, decode?_query_encoded _, ?_, by decide⟩
  have hescape : Decodes ['%', '4', '1'] ['A'] := Text.Percent.bytes_escapeByte 0x41
  have hdecode : Text.Percent.decode? ['/', '%', '4', '1'] = some ['/', 'A'] :=
    (hescape.cons (by decide)).decode?
  have hread : Query.targetOf ['/', '%', '4', '1'] = .ok ⟨["A"]⟩ := by
    unfold Query.targetOf
    rw [hdecode]
    rfl
  have hraw : Query.Spells ['/', '%', '4', '1'] [.target ⟨["A"]⟩] [] := by
    refine Query.spells_raw ⟨_, rfl⟩ ?_ hread
    simp only [List.forall_mem_cons]
    exact ⟨by decide, by decide, by decide, by decide, List.forall_mem_nil _⟩
  have hspells := hraw.space ((Query.spells_operator .eq).space Query.spells_nil)
  refine Query.parse_of_spells ?_ (.single (.clause (.clause (.target _) (.operand (.literal .nil)))))
    (by decide)
  rw [String.toList_ofList]
  exact hspells

end Filter
end RecordFilter
