import RecordFilter.Proofs.Query.Legibility

/-!
# Pointers written as they stand

A pointer that is written into a query without escapes is read as its target only if there was
nothing to escape in it: no character ends it early, and none of it is taken for an escape.
-/

namespace RecordFilter

namespace Target

/-- The pointer has no delimiter in it and stays as it is when escapes are read. -/
def Bare (target : Target) : Prop :=
  (∀ c ∈ target.pointerText, Query.isDelimiter c = false) ∧
    Text.Percent.decode? target.pointerText = some target.pointerText

theorem exists_pointerText {target : Target} (h : target.isRoot = false) :
    ∃ rest, target.pointerText = '/' :: rest := by
  rcases target with ⟨segments⟩
  cases segments with
  | nil =>
      cases h
  | cons first others =>
      exact ⟨_, rfl⟩

end Target

namespace Query

theorem spelled_of_bare {target : Target} (hroot : target.isRoot = false) (h : target.Bare) :
    Spelled Target.pointerText target := by
  refine spells_raw (Target.exists_pointerText hroot) h.1 ?_
  unfold targetOf
  rw [h.2]
  simp only [Target.parse_pointerText hroot]
  rfl

/-- The lexer may stop early, but then it has found a shorter pointer. -/
theorem bare_of_targetOf {target : Target}
    (h : targetOf (target.pointerText.takeWhile fun c => !isDelimiter c) = .ok target) :
    target.Bare := by
  have hdecode := decode?_of_targetOf h
  have hsplit := List.takeWhile_append_dropWhile
    (p := fun c => !isDelimiter c) (l := target.pointerText)
  have hdrop : (target.pointerText.dropWhile fun c => !isDelimiter c) = [] := by
    apply Text.Percent.eq_nil_of_decode?_append
    rw [hsplit]
    exact hdecode
  rw [hdrop, List.append_nil] at hsplit
  rw [hsplit] at hdecode
  refine ⟨?_, hdecode⟩
  intro c hc
  rw [← hsplit] at hc
  have hin := List.mem_takeWhile_imp hc
  simpa using hin

theorem bare_of_lexes {target : Target} {rest : List Char} {wanted : List Target}
    (hroot : target.isRoot = false) (hrest : Seam rest)
    (h : LexesTo Eq (target.pointerText ++ rest) (target :: wanted)) : target.Bare := by
  rcases Target.exists_pointerText hroot with ⟨tail, htail⟩
  rcases h with ⟨list, hspells, htargets⟩
  rw [htail, List.cons_append] at hspells
  cases hspells with
  | blank hblank _ =>
      have hslash : Text.isBlank '/' = false := by decide
      rw [hslash] at hblank
      cases hblank
  | token _ hread _ =>
      have hslash : readToken '/' (tail ++ rest) = readTarget ('/' :: tail ++ rest) := rfl
      rw [hslash, ← htail] at hread
      rcases readTarget_of_ok hread with ⟨found, hfound, rfl, _⟩
      rw [Text.takeWhile_append_of_head hrest.not_undelimited] at hfound
      have htarget : found = target := (List.cons.inj htargets).1
      rw [htarget] at hfound
      exact bare_of_targetOf hfound

/-- What is found where a target is wanted tells whether the target could be written. -/
theorem tracks_pointer : Tracks Target.pointerText Eq where
  behind h := (List.cons.inj h).2
  spelled hroot hrest h := spelled_of_bare hroot (bare_of_lexes hroot hrest h)

theorem spelled_pointer_iff {target : Target} (hroot : target.isRoot = false) :
    Spelled Target.pointerText target ↔ target.Bare := by
  constructor
  · intro h
    have hlexes : LexesTo Eq (target.pointerText ++ []) [target] := by
      rw [List.append_nil]
      exact ⟨_, h, rfl⟩
    exact bare_of_lexes hroot seam_nil hlexes
  · exact spelled_of_bare hroot

end Query
end RecordFilter
