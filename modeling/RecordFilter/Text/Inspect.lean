import RecordFilter.Text.Printable

/-!
# Text shown in messages

Messages quote text so that every character can be seen: line breaks and tabs are named, and
characters that would be invisible or would join a neighbour are given by code point.
-/

namespace RecordFilter
namespace Text

def inspectChar (c : Char) : List Char :=
  if c = '\x00' then ['\\', '0']
  else if c = '\t' then ['\\', 't']
  else if c = '\r' then ['\\', 'r']
  else if c = '\n' then ['\\', 'n']
  else if c = '\\' then ['\\', '\\']
  else if c = '"' then ['\\', '"']
  else if isShown c then [c]
  else '\\' :: 'u' :: '\x7b' :: Nat.toDigits 16 c.toNat ++ ['\x7d']

def inspect (text : String) : String :=
  String.ofList ('"' :: text.toList.flatMap inspectChar ++ ['"'])

end Text
end RecordFilter
