import Mathlib.Data.List.DropRight
import RecordFilter.Proofs.Json.Reading

/-!
# Streams of records

A stream is read record by record: blanks are skipped, each record is taken off the text that is
left, and the first text that is no record ends the stream with its fault.  Two streams with a
blank between them are one stream, whose records are those of the first and then those of the
second.
-/

namespace RecordFilter
namespace Json

/-- The records that a text starts with, and the fault that ends it if there is one. -/
inductive Streams : List Char → List Json → Option ReadError → Prop where
  | done {text : List Char} : skipBlank text = [] → Streams text [] none
  | record {text rest : List Char} {record : Json} {records : List Json} {fault : Option ReadError} :
      readRecord text = .ok (record, rest) → Streams rest records fault →
      Streams text (record :: records) fault
  | fault {text : List Char} {e : ReadError} :
      skipBlank text ≠ [] → readRecord text = .error e → Streams text [] (some e)

/-!
# Blanks in front of a record
-/

theorem readNested_congr {text text' : List Char} (h : skipBlank text = skipBlank text')
    (depth : Nat) : readNested depth text = readNested depth text' := by
  cases depth with
  | zero => simp only [readNested, readWith, h]
  | succ depth => simp only [readNested, readWith, h]

theorem readRecord_congr {text text' : List Char} (h : skipBlank text = skipBlank text') :
    readRecord text = readRecord text' := by
  have hdelimited : isDelimited text = isDelimited text' := by rw [isDelimited, h, isDelimited]
  rw [readRecord, readRecord, readValue, readNested_congr h, hdelimited]

theorem Streams.congr {text text' : List Char} {records : List Json} {fault : Option ReadError}
    (h : Streams text records fault) (hskip : skipBlank text = skipBlank text') :
    Streams text' records fault := by
  cases h with
  | done hblank => exact .done (hskip ▸ hblank)
  | record hrecord hrest => exact .record (readRecord_congr hskip ▸ hrecord) hrest
  | fault hne hfault => exact .fault (hskip ▸ hne) (readRecord_congr hskip ▸ hfault)

theorem skipBlank_of_readRecord {text rest : List Char} {record : Json}
    (h : readRecord text = .ok (record, rest)) : skipBlank text ≠ [] := by
  intro hblank
  have hnothing : readRecord text = readRecord [] := readRecord_congr hblank
  rw [hnothing] at h
  cases h

/-!
# Every text is a stream
-/

theorem exists_streams (text : List Char) : ∃ records fault, Streams text records fault := by
  induction hlength : text.length using Nat.strongRecOn generalizing text with
  | ind length ih =>
      subst hlength
      by_cases hblank : skipBlank text = []
      · exact ⟨_, _, .done hblank⟩
      · cases hrecord : readRecord text with
        | error e => exact ⟨_, _, .fault hblank hrecord⟩
        | ok read =>
            rcases read with ⟨record, rest⟩
            have hshorter := (steady_readRecord _ _ _ hrecord).1
            rcases ih rest.length hshorter rest rfl with ⟨records, fault, hrest⟩
            exact ⟨_, _, .record hrecord hrest⟩

/-- Each record takes up a character at least, so as many rounds as characters are enough. -/
theorem Streams.readRecordsWithin {text : List Char} {records : List Json}
    {fault : Option ReadError} (h : Streams text records fault) {rounds : Nat}
    (hrounds : text.length ≤ rounds) :
    Json.readRecordsWithin rounds text = fault.elim (.ok records) .error := by
  induction h generalizing rounds with
  | done hblank =>
      cases rounds with
      | zero => rfl
      | succ rounds =>
          rw [Json.readRecordsWithin, hblank]
          rfl
  | @record text rest record records fault hrecord _ ih =>
      have hshorter := (steady_readRecord _ _ _ hrecord).1
      have hblank := skipBlank_of_readRecord hrecord
      cases rounds with
      | zero => omega
      | succ rounds =>
          rw [Json.readRecordsWithin, if_neg (by simpa using hblank), hrecord]
          simp only [bind, Except.bind, ih (show rest.length ≤ rounds by omega)]
          cases fault with
          | none => rfl
          | some e => rfl
  | @fault text e hblank hfault =>
      cases rounds with
      | zero =>
          rw [List.eq_nil_of_length_eq_zero (Nat.le_zero.mp hrounds)] at hblank
          exact (hblank rfl).elim
      | succ rounds =>
          rw [Json.readRecordsWithin, if_neg (by simpa using hblank), hfault]
          rfl

theorem Streams.readRecords {text : List Char} {records : List Json} {fault : Option ReadError}
    (h : Streams text records fault) :
    Json.readRecords text = fault.elim (.ok records) .error :=
  h.readRecordsWithin le_rfl

theorem readRecords_eq_ok_iff {text : List Char} {records : List Json} :
    readRecords text = .ok records ↔ Streams text records none := by
  constructor
  · intro h
    rcases exists_streams text with ⟨found, fault, hstreams⟩
    rw [hstreams.readRecords] at h
    cases fault with
    | none =>
        cases h
        exact hstreams
    | some e => cases h
  · exact Streams.readRecords

theorem readRecords_eq_error_iff {text : List Char} {e : ReadError} :
    readRecords text = .error e ↔ ∃ records, Streams text records (some e) := by
  constructor
  · intro h
    rcases exists_streams text with ⟨found, fault, hstreams⟩
    rw [hstreams.readRecords] at h
    cases fault with
    | none => cases h
    | some e =>
        cases h
        exact ⟨found, hstreams⟩
  · rintro ⟨records, hstreams⟩
    exact hstreams.readRecords

/-!
# One stream behind the other
-/

theorem Streams.append {text more : List Char} {records others : List Json}
    {fault : Option ReadError} (h : Streams text records none) (hmore : Streams more others fault)
    {c : Char} (hc : isBlank c = true) :
    Streams (text ++ c :: more) (records ++ others) fault := by
  have hparted : Parted (c :: more) := by
    intro d hd
    cases hd
    exact hc
  generalize hnone : (none : Option ReadError) = ended at h
  induction h with
  | done hblank =>
      apply hmore.congr
      unfold skipBlank at hblank ⊢
      rw [List.dropWhile_append, hblank, List.isEmpty_nil, if_pos rfl, List.dropWhile_cons_of_pos hc]
  | record hrecord _ ih =>
      exact .record ((steady_readRecord _ _ _ hrecord).2 _ hparted) (ih hnone)
  | fault => cases hnone

/-!
# Documents

A text that is parsed as a whole is a stream of one record, so documents with a line break behind
each of them are the stream of their values.
-/

theorem Streams.of_parse {text : List Char} {record : Json} (h : parse text = .ok record) :
    Streams text [record] none := by
  rcases of_bind_eq_ok h with ⟨⟨value, rest⟩, hread, hends⟩
  simp only at hends
  split at hends
  · next hempty =>
      cases hends
      have hrest : skipBlank rest = [] := List.isEmpty_iff.mp hempty
      have hparted : Parted rest := fun c hc =>
        List.dropWhile_eq_nil_iff.mp hrest c (List.mem_of_mem_head? hc)
      have hbare : endsBare ([] ++ rest) = true := endsBare_append rfl hparted
      rw [List.nil_append] at hbare
      have hskipped : readValue (skipBlank text) = readValue text := by
        apply readNested_congr
        exact List.dropWhile_idempotent isBlank text
      rw [hskipped] at hread
      refine .record ?_ (.done hrest)
      rw [readRecord, hread]
      exact if_pos (by rw [hbare, Bool.or_true])
  · cases hends

theorem streams_lines {documents : List (List Char)} {records : List Json}
    (h : List.Forall₂ (fun text record => parse text = .ok record) documents records) :
    Streams (documents.flatMap fun text => text ++ ['\n']) records none := by
  induction h with
  | nil => exact .done rfl
  | cons hparse _ ih =>
      rw [List.flatMap_cons, List.append_assoc]
      exact (Streams.of_parse hparse).append ih rfl

end Json
end RecordFilter
