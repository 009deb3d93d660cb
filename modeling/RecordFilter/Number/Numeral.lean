import RecordFilter.Number.Basic

/-!
# Written numbers

A numeral is a sign, a whole part without leading zeros, and perhaps a fraction and an exponent.
Records and queries write numbers the same way.
-/

namespace RecordFilter

/-- Text can be refused because it stops too early or because it goes wrong. -/
inductive ReadError where
  | endOfText
  | malformed
deriving DecidableEq, Repr

namespace ReadError

/-- The fault of text that lacks what has to come next. -/
def missing (rest : List Char) : ReadError :=
  match rest with
  | [] => endOfText
  | _ :: _ => malformed

end ReadError

structure Numeral where
  negative : Bool
  whole : List Char
  fraction : Option (List Char)
  exponent : Option Int
deriving DecidableEq

namespace Numeral

/-!
# Reading

Each reader returns what is left of the text.
-/

def digitValue (c : Char) : Nat :=
  c.toNat - '0'.toNat

def digitsValue (digits : List Char) : Nat :=
  digits.foldl (fun value c => 10 * value + digitValue c) 0

def readWhole (text : List Char) : Except ReadError (List Char × List Char) :=
  match text.takeWhile Char.isDigit, text.dropWhile Char.isDigit with
  | [], rest => .error (ReadError.missing rest)
  | ['0'], rest => .ok (['0'], rest)
  | '0' :: _ :: _, _ => .error .malformed
  | digits, rest => .ok (digits, rest)

def readFraction (text : List Char) : Except ReadError (Option (List Char) × List Char) :=
  match text with
  | '.' :: rest =>
      match rest.takeWhile Char.isDigit, rest.dropWhile Char.isDigit with
      | [], rest => .error (ReadError.missing rest)
      | digits, rest => .ok (some digits, rest)
  | _ => .ok (none, text)

def readExponentSign (text : List Char) : Bool × List Char :=
  match text with
  | '+' :: rest => (false, rest)
  | '-' :: rest => (true, rest)
  | _ => (false, text)

def readExponent (text : List Char) : Except ReadError (Option Int × List Char) :=
  match text with
  | [] => .ok (none, [])
  | c :: rest =>
      if c = 'e' ∨ c = 'E' then
        let (negative, rest) := readExponentSign rest
        match rest.takeWhile Char.isDigit, rest.dropWhile Char.isDigit with
        | [], rest => .error (ReadError.missing rest)
        | digits, rest =>
            let size : Int := digitsValue digits
            .ok (some (if negative then -size else size), rest)
      else .ok (none, text)

def readUnsigned (negative : Bool) (text : List Char) :
    Except ReadError (Numeral × List Char) := do
  let (whole, rest) ← readWhole text
  let (fraction, rest) ← readFraction rest
  let (exponent, rest) ← readExponent rest
  return (⟨negative, whole, fraction, exponent⟩, rest)

def read (text : List Char) : Except ReadError (Numeral × List Char) :=
  match text with
  | '-' :: rest => readUnsigned true rest
  | _ => readUnsigned false text

/-!
# The number of a numeral

Digits are gathered into a significand of 64 bits.  The first digit that does not fit ends the
gathering in its part of the numeral; a digit of the whole part that is left over still counts in
the exponent.
-/

/-- Two to the 64th power. -/
def significandLimit : Nat := 0x10000000000000000

def gather : Nat → List Char → Nat × List Char
  | significand, [] => (significand, [])
  | significand, c :: rest =>
      if 10 * significand + digitValue c < significandLimit then
        gather (10 * significand + digitValue c) rest
      else (significand, c :: rest)

def float? (negative : Bool) (significand : Nat) (exponent : Int) : Option Number :=
  (Double.ofScientific? negative significand exponent).map .float

/-- A whole significand is an integer if that keeps its value and its sign. -/
def whole? (negative : Bool) (significand : Nat) : Option Number :=
  let n : Int := if negative then -significand else significand
  if h : Number.Fits n ∧ ¬(negative ∧ significand = 0) then some (.integer n h.1)
  else float? negative significand 0

/-- The number that is written, or nothing if it is too large for a double. -/
def number? (numeral : Numeral) : Option Number :=
  let (whole, dropped) := gather 0 numeral.whole
  match numeral.fraction, numeral.exponent with
  | none, none =>
      if dropped.isEmpty then whole? numeral.negative whole
      else float? numeral.negative whole dropped.length
  | fraction, exponent =>
      let digits := fraction.getD []
      let (significand, unused) := gather whole digits
      let shift : Int := (dropped.length : Int) + (unused.length : Int) - (digits.length : Int)
      float? numeral.negative significand (shift + exponent.getD 0)

/--
The double nearest to the written value, rounded once, or nothing if that is too large.  The
value is less than `10 ^ places` and, unless it is zero, not less than a tenth of that.  So the
number of places alone tells the values that round to zero and those beyond every double, and
the power of ten is worked out only in between.
-/
def nearestDouble? (numeral : Numeral) : Option Double :=
  let fraction := numeral.fraction.getD []
  let digits := (numeral.whole ++ fraction).dropWhile (· == '0')
  let exponent := numeral.exponent.getD 0 - fraction.length
  let places := digits.length + exponent
  if digits.isEmpty ∨ places < -323 then some (Double.zero numeral.negative)
  else if 309 < places then none
  else Double.nearest? numeral.negative (digitsValue digits * 10 ^ exponent)

end Numeral

namespace Number

def read (text : List Char) : Except ReadError (Number × List Char) := do
  let (numeral, rest) ← Numeral.read text
  match numeral.number? with
  | some number => return (number, rest)
  | none => throw .malformed

end Number

end RecordFilter
