import RecordFilter.Text.Hex

/-!
# Percent escapes

An escaped character is written as the bytes of its UTF-8 form, each as a percent sign and two
hexadecimal digits.  Reading undoes every such escape and keeps a percent sign that starts none;
the bytes that result must be UTF-8 again.
-/

namespace RecordFilter
namespace Text
namespace Percent

def escapeByte (byte : UInt8) : List Char :=
  ['%', upperHexDigit (byte.toNat / 16), upperHexDigit (byte.toNat % 16)]

def escapeChar (c : Char) : List Char :=
  (String.utf8EncodeChar c).flatMap escapeByte

def escapeWhere (reserved : Char → Bool) (text : List Char) : List Char :=
  text.flatMap fun c => if reserved c then escapeChar c else [c]

def isUnreserved (c : Char) : Bool :=
  c.isAlphanum || c == '-' || c == '_' || c == '.' || c == '~'

def encode (text : List Char) : List Char :=
  escapeWhere (fun c => !isUnreserved c) text

/-- The byte that an escape of three characters stands for. -/
def escapedByte? (sign high low : Char) : Option UInt8 :=
  if sign = '%' then
    match hexDigit? high, hexDigit? low with
    | some h, some l => some (UInt8.ofNat (16 * h + l))
    | _, _ => none
  else none

def bytes : List Char → List UInt8
  | c :: high :: low :: rest =>
      match escapedByte? c high low with
      | some byte => byte :: bytes rest
      | none => String.utf8EncodeChar c ++ bytes (high :: low :: rest)
  | short => short.flatMap String.utf8EncodeChar

def decode? (text : List Char) : Option (List Char) :=
  (bytes text).toByteArray.utf8Decode?.map Array.toList

end Percent
end Text
end RecordFilter
