import RecordFilter.Proofs.Query.Canonical
import RecordFilter.Proofs.Query.Depth

/-!
# Texts that can be read

A text of a filter can be read only if everything in it can: the text is taken off piece by piece
from the front, and what is left is still lexed to its end.  Where targets may be written so that
they are read as something else, the targets that the text is read to are compared with those
that it was written for.
-/

namespace RecordFilter
namespace Query

/-!
# Taking pieces off a text
-/

/-- The text is lexed to its end, and the targets found in it are related to the wanted ones. -/
def LexesTo (R : List Target → List Target → Prop) (text : List Char)
    (wanted : List Target) : Prop :=
  ∃ list, Spells text list [] ∧ R (targetsOf list) wanted

/--
A relation of found and wanted targets that is enough to take a text off from the front: where it
holds, the target that comes first is spelled, and it still holds behind that target.
-/
structure Tracks (write : Target → List Char) (R : List Target → List Target → Prop) : Prop where
  behind : ∀ {t found wanted}, R (t :: found) (t :: wanted) → R found wanted
  spelled : ∀ {t rest wanted}, t.isRoot = false → Seam rest →
    LexesTo R (write t ++ rest) (t :: wanted) → Spelled write t

section Walk

variable {write : Target → List Char} {R : List Target → List Target → Prop}

theorem Tracks.behind_all (tracks : Tracks write R) {front found wanted : List Target}
    (h : R (front ++ found) (front ++ wanted)) : R found wanted := by
  induction front with
  | nil =>
      exact h
  | cons t front ih =>
      exact ih (tracks.behind h)

theorem Tracks.drop (tracks : Tracks write R) {text rest : List Char} {front : List TokenKind}
    {wanted : List Target} (hfront : Spells text front rest)
    (h : LexesTo R text (targetsOf front ++ wanted)) : LexesTo R rest wanted := by
  rcases h with ⟨list, hspells, hlist⟩
  rcases hfront.split hspells with ⟨back, rfl, hback⟩
  rw [targetsOf_append] at hlist
  exact ⟨back, hback, tracks.behind_all hlist⟩

/-- Takes off a text that is read on its own. -/
theorem Tracks.drop_append (tracks : Tracks write R) {text rest : List Char}
    {front : List TokenKind} {wanted : List Target} (hfront : Spells text front [])
    (hrest : Seam rest) (h : LexesTo R (text ++ rest) (targetsOf front ++ wanted)) :
    LexesTo R rest wanted :=
  tracks.drop (hfront.append hrest) h

theorem Tracks.drop_space (tracks : Tracks write R) {rest : List Char} {wanted : List Target}
    (h : LexesTo R (' ' :: rest) wanted) : LexesTo R rest wanted :=
  tracks.drop (.blank (by decide) (.done rest)) h

/-- Takes off a mark, which ends where it stands. -/
theorem Tracks.drop_mark (tracks : Tracks write R) {mark : Char} {kind : TokenKind}
    {rest : List Char} {wanted : List Target} (hblank : Text.isBlank mark = false)
    (hread : readToken mark rest = ⟨.ok kind, rest⟩) (hkind : kind.target? = none)
    (h : LexesTo R (mark :: rest) wanted) : LexesTo R rest wanted := by
  have hnone : targetsOf [kind] = [] := targetsOf_cons_of_none hkind []
  apply tracks.drop (.one hblank hread)
  rw [hnone]
  exact h

/-- Takes off a keyword between two spaces. -/
theorem Tracks.drop_keyword (tracks : Tracks write R) {keyword rest : List Char}
    {kind : TokenKind} {wanted : List Target} (hspells : Spells keyword [kind] [])
    (hkind : kind.target? = none) (h : LexesTo R (' ' :: (keyword ++ ' ' :: rest)) wanted) :
    LexesTo R rest wanted := by
  have hnone : targetsOf [kind] = [] := targetsOf_cons_of_none hkind []
  apply tracks.drop_space
  apply tracks.drop_append hspells (seam_cons (by decide) rest)
  rw [hnone]
  exact tracks.drop_space h

/-!
# Literals and operands
-/

theorem literal_legible (tracks : Tracks write R) {value : Literal} {rest : List Char}
    {wanted : List Target} (hrest : Seam rest)
    (h : LexesTo R (value.text .plain ++ rest) wanted) :
    (∀ n ∈ value.numbers, n.Legible) ∧ LexesTo R rest wanted := by
  have hlegible : ∀ n ∈ value.numbers, n.Legible := by
    cases value with
    | number n =>
        rcases h with ⟨list, hspells, _⟩
        intro m hm
        rw [List.mem_singleton.mp hm]
        exact read_of_spells_append hrest hspells
    | nil | boolean _ | string _ =>
        exact List.forall_mem_nil _
  rcases literal_derives hlegible with ⟨kind, hspells, hderives⟩
  have hnone : targetsOf [kind] = [] := targetsOf_cons_of_none hderives.target? []
  refine ⟨hlegible, tracks.drop_append hspells hrest ?_⟩
  rw [hnone]
  exact h

theorem operand_readable (tracks : Tracks write R) {operand : Operand} {rest : List Char}
    {wanted : List Target} (hroot : operand.isRoot = false) (hrest : Seam rest)
    (h : LexesTo R (operand.written write ++ rest) (operand.targets ++ wanted)) :
    (∀ t ∈ operand.targets, Spelled write t) ∧ (∀ n ∈ operand.numbers, n.Legible) ∧
      LexesTo R rest wanted := by
  cases operand with
  | target t =>
      have hspelled : Spelled write t := tracks.spelled hroot hrest h
      refine ⟨?_, List.forall_mem_nil _, tracks.drop_append hspelled hrest h⟩
      exact List.forall_mem_singleton.mpr hspelled
  | literal value =>
      exact ⟨List.forall_mem_nil _, literal_legible tracks hrest h⟩

/-!
# Objects
-/

theorem items_legible (tracks : Tracks write R) {values : List Literal} {rest : List Char}
    {wanted : List Target} (hrest : Seam rest)
    (h : LexesTo R (Literal.listText .plain values ++ rest) wanted) :
    (∀ n ∈ values.flatMap Literal.numbers, n.Legible) ∧ LexesTo R rest wanted := by
  induction values with
  | nil =>
      exact ⟨List.forall_mem_nil _, h⟩
  | cons item others ih =>
      rw [List.flatMap_cons, List.forall_mem_append]
      cases others with
      | nil =>
          rcases literal_legible tracks hrest h with ⟨hitem, hleft⟩
          exact ⟨⟨hitem, List.forall_mem_nil _⟩, hleft⟩
      | cons second more =>
          have hsplit : LexesTo R (item.text .plain ++
              ',' :: (Literal.listText .plain (second :: more) ++ rest)) wanted := by
            simpa [Literal.listText] using h
          rcases literal_legible tracks (seam_cons (by decide) _) hsplit with ⟨hitem, hleft⟩
          rcases ih (tracks.drop_mark (by decide) rfl rfl hleft) with ⟨hothers, hleft⟩
          exact ⟨⟨hitem, hothers⟩, hleft⟩

theorem object_readable (tracks : Tracks write R) {object : Object} {rest : List Char}
    {wanted : List Target} (hroot : object.isRoot = false) (hrest : Seam rest)
    (h : LexesTo R (object.written write ++ rest) (object.targets ++ wanted)) :
    (∀ t ∈ object.targets, Spelled write t) ∧ (∀ n ∈ object.numbers, n.Legible) ∧
      LexesTo R rest wanted := by
  cases object with
  | operand o =>
      exact operand_readable tracks hroot hrest h
  | array items =>
      have hopen : LexesTo R ('[' :: (Literal.listText .plain items ++ ']' :: rest)) wanted := by
        simpa [Object.written, Object.text, Object.targets] using h
      have hitems := items_legible tracks (seam_cons (by decide) rest)
        (tracks.drop_mark (by decide) rfl rfl hopen)
      exact ⟨List.forall_mem_nil _, hitems.1, tracks.drop_mark (by decide) rfl rfl hitems.2⟩
  | range r =>
      have hbounds : LexesTo R (r.lower.toLiteral.text .plain ++
          ',' :: (r.upper.toLiteral.text .plain ++ rest)) wanted := by
        simpa [Object.written, Object.text, Object.targets] using h
      have hlower := literal_legible tracks (seam_cons (by decide) _) hbounds
      have hupper := literal_legible tracks hrest (tracks.drop_mark (by decide) rfl rfl hlower.2)
      exact ⟨List.forall_mem_nil _, List.forall_mem_append.mpr ⟨hlower.1, hupper.1⟩, hupper.2⟩
  | pattern p =>
      exact ⟨List.forall_mem_nil _, List.forall_mem_nil _,
        tracks.drop_append (spells_string p.raw) hrest h⟩

/-!
# Clauses and filters
-/

theorem clause_writable (tracks : Tracks write R) {clause : Clause} {rest : List Char}
    {wanted : List Target} (hprintable : clause.Printable) (hrest : Seam rest)
    (h : LexesTo R (clause.written write ++ rest) (clause.targets ++ wanted)) :
    Writable write [clause] ∧ LexesTo R rest wanted := by
  have hclause := hprintable
  cases hprintable with
  | @complete subject operator object _ hsubjectRoot hobjectRoot =>
      rw [Clause.targets_complete, List.append_assoc] at h
      have hsplit : LexesTo R (subject.written write ++
          ' ' :: (operator.keyword.toList ++ ' ' :: (object.written write ++ rest)))
          (subject.targets ++ (object.targets ++ wanted)) := by
        simpa [Clause.written] using h
      have hsubject := operand_readable tracks hsubjectRoot (seam_cons (by decide) _) hsplit
      have hobject := object_readable tracks hobjectRoot hrest
        (tracks.drop_keyword (spells_operator operator) rfl hsubject.2.2)
      refine ⟨List.forall_mem_singleton.mpr ⟨hclause, ?_, ?_⟩, hobject.2.2⟩
      · rw [Clause.targets_complete]
        exact List.forall_mem_append.mpr ⟨hsubject.1, hobject.1⟩
      · rw [Clause.numbers_complete]
        exact List.forall_mem_append.mpr ⟨hsubject.2.1, hobject.2.1⟩

/-
By induction on the filter, with any text behind it: what is left of the text when a part has
been taken off is the text of the next part.
-/
mutual

theorem node_writable (tracks : Tracks write R) : ∀ (node : Node) {rest : List Char}
    {wanted : List Target}, (∀ clause ∈ node.clauses, clause.Printable) → Seam rest →
    LexesTo R (node.written write ++ rest) (node.clauses.flatMap Clause.targets ++ wanted) →
    Writable write node.clauses ∧ LexesTo R rest wanted
  | .clause clause, rest, wanted, hprintable, hrest, h => by
      have htargets : (Node.clause clause).clauses.flatMap Clause.targets = clause.targets :=
        List.flatMap_singleton _ _
      rw [htargets] at h
      exact clause_writable tracks (hprintable clause List.mem_cons_self) hrest h
  | .group filter, rest, wanted, hprintable, hrest, h => by
      have hopen : LexesTo R ('(' :: (filter.written write ++ ')' :: rest))
          (filter.targets ++ wanted) := by
        simpa [Node.written, Node.clauses, Filter.targets] using h
      have hinside := filter_writable tracks filter hprintable (seam_cons (by decide) rest)
        (tracks.drop_mark (by decide) rfl rfl hopen)
      exact ⟨hinside.1, tracks.drop_mark (by decide) rfl rfl hinside.2⟩

theorem filter_writable (tracks : Tracks write R) : ∀ (filter : Filter) {rest : List Char}
    {wanted : List Target}, (∀ clause ∈ filter.clauses, clause.Printable) → Seam rest →
    LexesTo R (filter.written write ++ rest) (filter.targets ++ wanted) →
    Writable write filter.clauses ∧ LexesTo R rest wanted
  | .single node, _, _, hprintable, hrest, h => node_writable tracks node hprintable hrest h
  | .join left conjunction node, rest, wanted, hprintable, hrest, h => by
      rcases List.forall_mem_append.mp hprintable with ⟨hprintableLeft, hprintableNode⟩
      have hsplit : LexesTo R (left.written write ++
          ' ' :: (conjunction.keyword.toList ++ ' ' :: (node.written write ++ rest)))
          (left.targets ++ (node.clauses.flatMap Clause.targets ++ wanted)) := by
        simpa [Filter.written, Filter.targets, Filter.clauses] using h
      have hleft := filter_writable tracks left hprintableLeft (seam_cons (by decide) _) hsplit
      have hnode := node_writable tracks node hprintableNode hrest
        (tracks.drop_keyword (spells_conjunction conjunction)
          (derivesConjunction_kind conjunction).target? hleft.2)
      exact ⟨writable_append.mpr ⟨hleft.1, hnode.1⟩, hnode.2⟩

end

end Walk

/-!
# Whole texts
-/

section Texts

variable {write : Target → List Char} {R : List Target → List Target → Prop} {filter : Filter}

theorem parse_written (h : Writable write filter.clauses)
    (hdepth : filter.depth ≤ Parser.maxDepth) :
    Filter.parse (String.ofList (filter.written write)) = .ok filter.reread := by
  rcases filter_derives_reread filter h with ⟨list, hspells, hderives⟩
  rw [← filter.depth_reread] at hdepth
  refine parse_of_spells ?_ hderives hdepth
  rw [String.toList_ofList]
  exact hspells

/-- The converse: a text of the filter is parsed only if everything in it is read. -/
theorem writable_of_parse (tracks : Tracks write R) {parsed : Filter}
    (hprintable : ∀ clause ∈ filter.clauses, clause.Printable)
    (hparse : Filter.parse (String.ofList (filter.written write)) = .ok parsed)
    (htargets : R parsed.targets filter.targets) : Writable write filter.clauses := by
  rcases spells_of_parse hparse with ⟨list, hspells, hderives, _⟩
  rw [String.toList_ofList] at hspells
  rw [← hderives.targetsOf] at htargets
  have hlexes : LexesTo R (filter.written write ++ []) (filter.targets ++ []) := by
    rw [List.append_nil, List.append_nil]
    exact ⟨list, hspells, htargets⟩
  exact (filter_writable tracks filter hprintable seam_nil hlexes).1

end Texts

end Query
end RecordFilter
