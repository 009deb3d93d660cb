import RecordFilter.Text.Hex
import RecordFilter.Text.Printable

/-!
# Quoted text

A string stands between double quotes in a query.  Quotes, backslashes and control characters are
written as escapes; reading also takes an escaped slash and any code point of four hexadecimal
digits.
-/

namespace RecordFilter
namespace Text
namespace Quoted

/-!
# Writing
-/

def escape (c : Char) : List Char :=
  if c = '"' then ['\\', '"']
  else if c = '\\' then ['\\', '\\']
  else if c = '\n' then ['\\', 'n']
  else if c = '\r' then ['\\', 'r']
  else if c = '\t' then ['\\', 't']
  else if isControl c then '\\' :: 'u' :: fourHexDigits c.toNat
  else [c]

def body (text : List Char) : List Char :=
  text.flatMap escape

/-!
# Reading

The scan starts behind the opening quote and stops at the closing one, at the first escape that
means nothing, or at the end of the text.
-/

inductive Scan where
  /-- The content up to the closing quote, and the text behind it. -/
  | closed (content rest : List Char)
  | unclosed
  /-- The escaped character, the text from the backslash on, and the text not yet looked at. -/
  | badEscape (escaped : Char) (place rest : List Char)
deriving DecidableEq

namespace Scan

/-- The scan of a text with one more character in front of its content. -/
def push (c : Char) : Scan → Scan
  | closed content rest => closed (c :: content) rest
  | unclosed => unclosed
  | badEscape escaped place rest => badEscape escaped place rest

end Scan

def simpleEscape? (c : Char) : Option Char :=
  if c = 'n' then some '\n'
  else if c = 't' then some '\t'
  else if c = 'r' then some '\r'
  else if c = '"' ∨ c = '\\' ∨ c = '/' then some c
  else none

/-- Four hexadecimal digits, or a plus sign and three. -/
def codePoint? (a b c d : Char) : Option Char :=
  (if a = '+' then readHex? [b, c, d] else readHex? [a, b, c, d]).bind scalar?

def scan : List Char → Scan
  | [] => .unclosed
  | c :: rest =>
      if c = '"' then .closed [] rest
      else if c = '\\' then
        match rest with
        | [] => .unclosed
        | e :: rest' =>
            if e = 'u' then
              match rest' with
              | h₁ :: h₂ :: h₃ :: h₄ :: rest'' =>
                  match codePoint? h₁ h₂ h₃ h₄ with
                  | some decoded => (scan rest'').push decoded
                  | none => .badEscape e (c :: rest) rest'
              | _ => .badEscape e (c :: rest) rest'
            else
              match simpleEscape? e with
              | some decoded => (scan rest').push decoded
              | none => .badEscape e (c :: rest) rest
      else (scan rest).push c

end Quoted
end Text
end RecordFilter
