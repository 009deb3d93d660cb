import RecordFilter.Proofs.Text.Hex
import RecordFilter.Text.Percent

/-!
# Percent escapes read back

The bytes of an escaped text are those of the text itself, as long as the percent sign is among
the characters that are escaped.
-/

namespace RecordFilter
namespace Text
namespace Percent

/-!
# Bytes
-/

theorem bytes_escapeByte (byte : UInt8) (rest : List Char) :
    bytes (escapeByte byte ++ rest) = byte :: bytes rest := by
  have hlt : byte.toNat < 256 := byte.toNat_lt
  have hhigh := hexDigit?_upperHexDigit (show byte.toNat / 16 < 16 by omega)
  have hlow := hexDigit?_upperHexDigit (show byte.toNat % 16 < 16 by omega)
  have hbyte : escapedByte? '%' (upperHexDigit (byte.toNat / 16))
      (upperHexDigit (byte.toNat % 16)) = some byte := by
    simp only [escapedByte?, if_true, hhigh, hlow, Nat.div_add_mod, UInt8.ofNat_toNat]
  show bytes ('%' :: upperHexDigit (byte.toNat / 16) :: upperHexDigit (byte.toNat % 16) :: rest) = _
  rw [bytes, hbyte]

theorem bytes_escapeBytes (list : List UInt8) (rest : List Char) :
    bytes (list.flatMap escapeByte ++ rest) = list ++ bytes rest := by
  induction list with
  | nil =>
      rfl
  | cons byte list ih =>
      rw [List.flatMap_cons, List.append_assoc, bytes_escapeByte, ih]
      rfl

/-- A character other than the percent sign stands for itself. -/
theorem bytes_plain {c : Char} (hc : c ≠ '%') (rest : List Char) :
    bytes (c :: rest) = String.utf8EncodeChar c ++ bytes rest := by
  cases rest with
  | nil =>
      simp [bytes]
  | cons high rest =>
      cases rest with
      | nil =>
          simp [bytes]
      | cons low rest =>
          have hnone : escapedByte? c high low = none := if_neg hc
          rw [bytes, hnone]

theorem length_utf8EncodeChar_pos (c : Char) : 0 < (String.utf8EncodeChar c).length := by
  rw [String.length_utf8EncodeChar]
  exact c.utf8Size_pos

theorem length_bytes_le (text : List Char) :
    (bytes text).length ≤ (text.flatMap String.utf8EncodeChar).length := by
  fun_induction bytes text with
  | case1 c high low rest byte hbyte ih =>
      have hc := length_utf8EncodeChar_pos c
      have hhigh := length_utf8EncodeChar_pos high
      simp only [List.flatMap_cons, List.length_cons, List.length_append]
      omega
  | case2 c high low rest hnone ih =>
      rw [List.flatMap_cons, List.length_append, List.length_append]
      omega
  | case3 short =>
      exact Nat.le_refl _

/-!
# What escapes stand for

A text stands for a plain one if it can be read to it in front of every text, so that such texts
can be put together.
-/

def Decodes (text plain : List Char) : Prop :=
  ∀ rest, bytes (text ++ rest) = plain.flatMap String.utf8EncodeChar ++ bytes rest

theorem decodes_nil : Decodes [] [] :=
  fun _ => rfl

theorem Decodes.append {front back plain plain' : List Char} (hfront : Decodes front plain)
    (hback : Decodes back plain') : Decodes (front ++ back) (plain ++ plain') := by
  intro rest
  rw [List.append_assoc, hfront, hback, List.flatMap_append, List.append_assoc]

theorem Decodes.cons {c : Char} (hc : c ≠ '%') {text plain : List Char}
    (h : Decodes text plain) : Decodes (c :: text) (c :: plain) := by
  intro rest
  rw [List.cons_append, bytes_plain hc, h, List.flatMap_cons, List.append_assoc]

theorem decodes_plain {text : List Char} (h : '%' ∉ text) : Decodes text text := by
  induction text with
  | nil =>
      exact decodes_nil
  | cons c text ih =>
      rw [List.mem_cons, not_or] at h
      exact (ih h.2).cons (Ne.symm h.1)

theorem decodes_escapeChar (c : Char) : Decodes (escapeChar c) [c] := by
  intro rest
  rw [escapeChar, bytes_escapeBytes, List.flatMap_singleton]

theorem decodes_escapeWhere {reserved : Char → Bool} (hpercent : reserved '%' = true)
    (text : List Char) : Decodes (escapeWhere reserved text) text := by
  induction text with
  | nil =>
      exact decodes_nil
  | cons c text ih =>
      by_cases hc : reserved c = true
      · have hescape : escapeWhere reserved (c :: text) =
            escapeChar c ++ escapeWhere reserved text := by
          simp [escapeWhere, hc]
        rw [hescape]
        exact (decodes_escapeChar c).append ih
      · have hplain : c ≠ '%' := by
          intro h
          rw [h] at hc
          exact hc hpercent
        have hself : escapeWhere reserved (c :: text) = c :: escapeWhere reserved text := by
          simp [escapeWhere, hc]
        rw [hself]
        exact ih.cons hplain

/-!
# Texts
-/

theorem Decodes.decode? {text plain : List Char} (h : Decodes text plain) :
    Percent.decode? text = some plain := by
  have hbytes : bytes text = plain.flatMap String.utf8EncodeChar := by
    have hnil : bytes [] = [] := rfl
    have htext := h []
    rwa [List.append_nil, hnil, List.append_nil] at htext
  have hencode : (plain.flatMap String.utf8EncodeChar).toByteArray = plain.utf8Encode := rfl
  rw [Percent.decode?, hbytes, hencode, List.utf8Decode?_utf8Encode]
  rfl

theorem decode?_plain {c : Char} (hc : c ≠ '%') (rest : List Char) :
    decode? (c :: rest) = (decode? rest).map (c :: ·) := by
  have hencode : (bytes (c :: rest)).toByteArray = [c].utf8Encode ++ (bytes rest).toByteArray := by
    rw [bytes_plain hc, List.toByteArray_append, List.utf8Encode_singleton]
  rw [decode?, hencode, ByteArray.utf8Decode?_utf8Encode_singleton_append, decode?]
  cases (bytes rest).toByteArray.utf8Decode? with
  | none =>
      rfl
  | some decoded =>
      simp

theorem length_of_decode? {text plain : List Char} (h : decode? text = some plain) :
    (bytes text).length = (plain.flatMap String.utf8EncodeChar).length := by
  rcases Option.map_eq_some_iff.mp h with ⟨decoded, hdecoded, rfl⟩
  have hsome : (bytes text).toByteArray.utf8Decode?.isSome = true := by
    rw [hdecoded]
    rfl
  have hencode : decoded.toList.utf8Encode = (bytes text).toByteArray := by
    have hget := ByteArray.utf8Encode_get_utf8Decode? (h := hsome)
    simpa only [hdecoded, Option.get_some] using hget
  have hsize := congrArg ByteArray.size hencode
  rw [List.utf8Encode, List.size_toByteArray, List.size_toByteArray] at hsize
  exact hsize.symm

/-- Reading makes no text longer, so a text is not read to itself and more. -/
theorem eq_nil_of_decode?_append {text rest : List Char} (h : decode? text = some (text ++ rest)) :
    rest = [] := by
  have hlength := length_of_decode? h
  have hbound := length_bytes_le text
  rw [List.flatMap_append, List.length_append] at hlength
  cases rest with
  | nil =>
      rfl
  | cons c rest =>
      have hpositive := length_utf8EncodeChar_pos c
      rw [List.flatMap_cons, List.length_append] at hlength
      omega

end Percent
end Text
end RecordFilter
