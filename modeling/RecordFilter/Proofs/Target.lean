import RecordFilter.Target

/-!
# Pointers read back

A segment without its escapes has no slash in it, so the slashes of a pointer separate its
segments, and a pointer and its target give each other back.
-/

namespace RecordFilter
namespace Target

/-!
# Segments
-/

theorem unescapeSegment_escape_append (c : Char) (rest : List Char) :
    unescapeSegment (escape c ++ rest) = (unescapeSegment rest).map (c :: ·) := by
  unfold escape
  split
  · next h =>
      rw [h]
      rfl
  · next htilde =>
      split
      · next h =>
          rw [h]
          rfl
      · rw [List.singleton_append, unescapeSegment.eq_def]
        simp only [if_neg htilde]

theorem unescapeSegment_escapeSegment (segment : List Char) :
    unescapeSegment (escapeSegment segment) = some segment := by
  induction segment with
  | nil =>
      rfl
  | cons c segment ih =>
      have hescape : escapeSegment (c :: segment) = escape c ++ escapeSegment segment := rfl
      rw [hescape, unescapeSegment_escape_append, ih]
      rfl

theorem slash_not_mem_escapeSegment (segment : List Char) : '/' ∉ escapeSegment segment := by
  intro h
  rcases List.mem_flatMap.mp h with ⟨c, _, hc⟩
  unfold escape at hc
  split at hc
  · simp at hc
  · split at hc
    · simp at hc
    · next hslash =>
        exact hslash (List.mem_singleton.mp hc).symm

/-- What has no slash in it has every tilde as an escape, so nothing is lost by reading it. -/
theorem escapeSegment_of_unescapeSegment {text segment : List Char} (hslash : '/' ∉ text)
    (h : unescapeSegment text = some segment) : escapeSegment segment = text := by
  fun_induction unescapeSegment text generalizing segment with
  | case1 =>
      cases h
      rfl
  | case2 =>
      cases h
  | case3 rest ih =>
      rcases Option.map_eq_some_iff.mp h with ⟨found, hfound, rfl⟩
      have hrest := ih (fun hmem => hslash (by simp [hmem])) hfound
      exact congrArg (['~', '0'] ++ ·) hrest
  | case4 rest _ ih =>
      rcases Option.map_eq_some_iff.mp h with ⟨found, hfound, rfl⟩
      have hrest := ih (fun hmem => hslash (by simp [hmem])) hfound
      exact congrArg (['~', '1'] ++ ·) hrest
  | case5 =>
      cases h
  | case6 c rest htilde ih =>
      rcases Option.map_eq_some_iff.mp h with ⟨found, hfound, rfl⟩
      rw [List.mem_cons, not_or] at hslash
      have hself : escape c = [c] := by
        rw [escape, if_neg htilde, if_neg (Ne.symm hslash.1)]
      have hcons : escapeSegment (c :: found) = escape c ++ escapeSegment found := rfl
      rw [hcons, hself, ih hslash.2 hfound]
      rfl

/-!
# Pieces
-/

theorem pieces_of_not_mem {text : List Char} (h : '/' ∉ text) : pieces text = [text] := by
  induction text with
  | nil =>
      rfl
  | cons c text ih =>
      rw [List.mem_cons, not_or] at h
      rw [pieces, if_neg (Ne.symm h.1), ih h.2]

theorem pieces_append_slash {text : List Char} (h : '/' ∉ text) (rest : List Char) :
    pieces (text ++ '/' :: rest) = text :: pieces rest := by
  induction text with
  | nil =>
      exact if_pos rfl
  | cons c text ih =>
      rw [List.mem_cons, not_or] at h
      rw [List.cons_append, pieces, if_neg (Ne.symm h.1), ih h.2]

theorem pieces_pointer (first : String) (others : List String) :
    pieces (escapeSegment first.toList ++
      others.flatMap fun segment => '/' :: escapeSegment segment.toList) =
      (first :: others).map fun segment => escapeSegment segment.toList := by
  induction others generalizing first with
  | nil =>
      rw [List.flatMap_nil, List.append_nil]
      exact pieces_of_not_mem (slash_not_mem_escapeSegment first.toList)
  | cons second others ih =>
      rw [List.flatMap_cons, List.cons_append,
        pieces_append_slash (slash_not_mem_escapeSegment first.toList), ih second]
      rfl

theorem pieces_ne_nil (text : List Char) : pieces text ≠ [] := by
  cases text with
  | nil =>
      exact List.cons_ne_nil _ _
  | cons c rest =>
      unfold pieces
      split
      · exact List.cons_ne_nil _ _
      · split <;> exact List.cons_ne_nil _ _

theorem slash_not_mem_pieces {text piece : List Char} (h : piece ∈ pieces text) :
    '/' ∉ piece := by
  induction text generalizing piece with
  | nil =>
      rw [List.mem_singleton.mp h]
      exact List.not_mem_nil
  | cons c text ih =>
      by_cases hc : c = '/'
      · rw [pieces, if_pos hc] at h
        rcases List.mem_cons.mp h with rfl | h
        · exact List.not_mem_nil
        · exact ih h
      · rw [pieces, if_neg hc] at h
        cases hpieces : pieces text with
        | nil =>
            exact absurd hpieces (pieces_ne_nil text)
        | cons first others =>
            rw [hpieces] at h ih
            rcases List.mem_cons.mp h with rfl | h
            · rw [List.mem_cons, not_or]
              exact ⟨Ne.symm hc, ih List.mem_cons_self⟩
            · exact ih (List.mem_cons_of_mem first h)

theorem flatMap_pieces (text : List Char) :
    (pieces text).flatMap (fun piece => '/' :: piece) = '/' :: text := by
  induction text with
  | nil =>
      rfl
  | cons c text ih =>
      by_cases hc : c = '/'
      · rw [pieces, if_pos hc, hc, List.flatMap_cons, ih]
        rfl
      · rw [pieces, if_neg hc]
        cases hpieces : pieces text with
        | nil =>
            exact absurd hpieces (pieces_ne_nil text)
        | cons first others =>
            rw [hpieces, List.flatMap_cons, List.cons_append] at ih
            rw [List.flatMap_cons, List.cons_append, List.cons_append, (List.cons.inj ih).2]

/-!
# Pointers
-/

theorem mapM_unescapeSegment (segments : List String) :
    (segments.map fun segment => escapeSegment segment.toList).mapM unescapeSegment =
      some (segments.map String.toList) := by
  induction segments with
  | nil =>
      rfl
  | cons segment segments ih =>
      rw [List.map_cons, List.mapM_cons, unescapeSegment_escapeSegment, ih]
      rfl

theorem parse_pointerText {target : Target} (h : target.isRoot = false) :
    parse (String.ofList target.pointerText) = .ok target := by
  rcases target with ⟨segments⟩
  cases segments with
  | nil =>
      cases h
  | cons first others =>
      have hsegments : ((first :: others).map String.toList).map String.ofList =
          first :: others := by
        simp [Function.comp_def]
      have hpointer : pointerText ⟨first :: others⟩ = '/' :: (escapeSegment first.toList ++
          others.flatMap fun segment => '/' :: escapeSegment segment.toList) := rfl
      rw [parse, String.toList_ofList, hpointer]
      simp only [if_true, pieces_pointer, mapM_unescapeSegment, hsegments]

theorem map_escapeSegment_of_mapM {texts segments : List (List Char)}
    (hslash : ∀ text ∈ texts, '/' ∉ text) (h : texts.mapM unescapeSegment = some segments) :
    segments.map escapeSegment = texts := by
  induction texts generalizing segments with
  | nil =>
      cases h
      rfl
  | cons text texts ih =>
      rw [List.forall_mem_cons] at hslash
      rw [List.mapM_cons] at h
      rcases Option.bind_eq_some_iff.mp h with ⟨first, hfirst, hmore⟩
      rcases Option.bind_eq_some_iff.mp hmore with ⟨more, hothers, hlist⟩
      cases hlist
      rw [List.map_cons, escapeSegment_of_unescapeSegment hslash.1 hfirst, ih hslash.2 hothers]

/-- The target of a pointer has that pointer, so different pointers have different targets. -/
theorem pointerText_of_parse {pointer : String} {target : Target}
    (h : parse pointer = .ok target) : target.pointerText = pointer.toList := by
  unfold parse at h
  split at h
  · next hnil =>
      cases h
      exact hnil.symm
  · next c rest hpointer =>
      split at h
      · next hc =>
          split at h
          · next segments hsegments =>
              cases h
              have htexts := map_escapeSegment_of_mapM (fun _ => slash_not_mem_pieces) hsegments
              rw [hpointer, hc, ← flatMap_pieces rest, ← htexts]
              simp [pointerText, List.flatMap_map]
          · cases h
      · cases h

end Target
end RecordFilter
