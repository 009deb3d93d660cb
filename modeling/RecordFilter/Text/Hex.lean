/-!
# Hexadecimal digits

Percent escapes are written in upper case and code points in lower case; both cases are read.
-/

namespace RecordFilter
namespace Text

def hexDigit? (c : Char) : Option Nat :=
  if c.isDigit then some (c.toNat - '0'.toNat)
  else if 'a' ≤ c ∧ c ≤ 'f' then some (c.toNat - 'a'.toNat + 10)
  else if 'A' ≤ c ∧ c ≤ 'F' then some (c.toNat - 'A'.toNat + 10)
  else none

def upperHexDigit (n : Nat) : Char :=
  if n < 10 then Char.ofNat ('0'.toNat + n) else Char.ofNat ('A'.toNat + (n - 10))

def lowerHexDigit (n : Nat) : Char :=
  if n < 10 then Char.ofNat ('0'.toNat + n) else Char.ofNat ('a'.toNat + (n - 10))

/-- The last four hexadecimal digits of a code point. -/
def fourHexDigits (point : Nat) : List Char :=
  [lowerHexDigit (point / 4096 % 16), lowerHexDigit (point / 256 % 16),
    lowerHexDigit (point / 16 % 16), lowerHexDigit (point % 16)]

def readHex? (digits : List Char) : Option Nat :=
  digits.foldlM (fun value c => (hexDigit? c).map (16 * value + ·)) 0

/-- The character at a code point, unless that is a surrogate or too large. -/
def scalar? (point : Nat) : Option Char :=
  if point.isValidChar then some (Char.ofNat point) else none

end Text
end RecordFilter
