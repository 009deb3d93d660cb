import RecordFilter.Proofs.Query.Canonical
import RecordFilter.Proofs.Query.Contents
import RecordFilter.Proofs.Query.Depth

/-!
# Targets in texts

A target in a text starts with a slash, so it is never the root.  What is derived from tokens
without the root can be printed again.
-/

namespace RecordFilter
namespace Query

/-!
# Tokens of texts
-/

def RootFree (list : List TokenKind) : Prop :=
  ∀ target, .target target ∈ list → target.isRoot = false

theorem not_isRoot_of_targetOf {rest : List Char} {target : Target}
    (h : targetOf ('/' :: rest) = .ok target) : target.isRoot = false := by
  have hdecode := decode?_of_targetOf h
  rw [Text.Percent.decode?_plain (by decide)] at hdecode
  rcases Option.map_eq_some_iff.mp hdecode with ⟨decoded, _, hpointer⟩
  rcases target with ⟨segments⟩
  cases segments with
  | nil =>
      cases hpointer
  | cons first others =>
      rfl

theorem ofWord_ne_target (word : String) (target : Target) :
    TokenKind.ofWord word ≠ .target target := by
  unfold TokenKind.ofWord
  repeat' split
  all_goals nofun

theorem not_isRoot_of_readToken {c : Char} {text left : List Char} {target : Target}
    (h : readToken c text = ⟨.ok (.target target), left⟩) : target.isRoot = false := by
  cases tokenStart c with
  | mark kind hkind _ hread =>
      rw [hread] at h
      cases h
      cases hkind
  | quote _ hread =>
      rw [hread] at h
      unfold readString at h
      split at h <;> cases h
  | target hc hread =>
      rw [hread] at h
      rcases readTarget_of_ok h with ⟨found, htarget, hkind, _⟩
      cases hkind
      rw [hc, takeWhile_slash] at htarget
      exact not_isRoot_of_targetOf htarget
  | sign _ hread =>
      rw [hread] at h
      rcases readNumber_kind h with ⟨n, hkind⟩
      cases hkind
  | digit _ hread =>
      rw [hread] at h
      rcases readNumber_kind h with ⟨n, hkind⟩
      cases hkind
  | word _ hread =>
      rw [hread] at h
      unfold readWord at h
      injection h with houtcome _
      exact absurd (Except.ok.inj houtcome) (ofWord_ne_target _ target)
  | other hread =>
      rw [hread] at h
      cases h

theorem Spells.rootFree {text rest : List Char} {list : List TokenKind}
    (h : Spells text list rest) : RootFree list := by
  induction h with
  | done =>
      intro target hmem
      cases hmem
  | blank _ _ ih =>
      exact ih
  | token _ hread _ ih =>
      intro target hmem
      rcases List.mem_cons.mp hmem with rfl | hmem
      · exact not_isRoot_of_readToken hread
      · exact ih target hmem

/-!
# Filters of texts
-/

theorem rootFree_iff {list : List TokenKind} :
    RootFree list ↔ ∀ t ∈ targetsOf list, t.isRoot = false := by
  unfold RootFree
  simp only [mem_targetsOf]

/-- A filter has the root in it exactly if a token is the root. -/
theorem DerivesFilter.rootFree_iff {list : List TokenKind} {filter : Filter}
    (h : DerivesFilter list filter) :
    (∀ clause ∈ filter.clauses, clause.hasRoot = false) ↔ RootFree list := by
  rw [Query.rootFree_iff, h.targetsOf, Filter.forall_hasRoot_eq_false_iff]

theorem printable_of_derivesClause {list : List TokenKind} {clause : Clause}
    (h : DerivesClause list clause) (hroot : clause.hasRoot = false) : clause.Printable := by
  cases h with
  | @clause kind subject operator rest object hsubject hobject =>
      rw [Clause.hasRoot_complete, Bool.or_eq_false_iff] at hroot
      exact .complete (family_of_derivesObject hobject) hroot.1 hroot.2

theorem printable_of_derivesFilter {list : List TokenKind} {filter : Filter}
    (h : DerivesFilter list filter) (hfree : RootFree list) :
    ∀ clause ∈ filter.clauses, clause.Printable := by
  intro clause hclause
  rcases h.clauses clause hclause with ⟨part, hpart⟩
  exact printable_of_derivesClause hpart (h.rootFree_iff.mpr hfree clause hclause)

theorem printable_of_parse {text : String} {filter : Filter} (h : Filter.parse text = .ok filter) :
    ∀ clause ∈ filter.clauses, clause.Printable := by
  rcases spells_of_parse h with ⟨list, hspells, hderives, _⟩
  exact printable_of_derivesFilter hderives hspells.rootFree

end Query
end RecordFilter
