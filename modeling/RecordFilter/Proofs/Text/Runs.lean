/-!
# Runs of characters

The run that a text starts with ends where the text behind it starts, unless that goes on with the
run.
-/

namespace RecordFilter
namespace Text

theorem takeWhile_append_of_head {p : Char → Bool} {rest : List Char}
    (h : ∀ c ∈ rest.head?, p c = false) (text : List Char) :
    (text ++ rest).takeWhile p = text.takeWhile p := by
  induction text with
  | nil =>
      cases rest with
      | nil =>
          rfl
      | cons c rest =>
          have hc : p c = false := h c rfl
          simp [hc]
  | cons c text ih =>
      cases hc : p c with
      | true =>
          simp [hc, ih]
      | false =>
          simp [hc]

theorem dropWhile_append_of_head {p : Char → Bool} {rest : List Char}
    (h : ∀ c ∈ rest.head?, p c = false) (text : List Char) :
    (text ++ rest).dropWhile p = text.dropWhile p ++ rest := by
  induction text with
  | nil =>
      cases rest with
      | nil =>
          rfl
      | cons c rest =>
          have hc : p c = false := h c rfl
          simp [hc]
  | cons c text ih =>
      cases hc : p c with
      | true =>
          simp [hc, ih]
      | false =>
          simp [hc]

end Text
end RecordFilter
