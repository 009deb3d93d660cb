import RecordFilter.Json.Basic
import RecordFilter.Text.Hex

/-!
# Compact text of values

Values are written without spaces.  Control characters are escaped, everything else stands for
itself.
-/

namespace RecordFilter
namespace Json

def escape (c : Char) : List Char :=
  if c = '"' then ['\\', '"']
  else if c = '\\' then ['\\', '\\']
  else if c = '\x08' then ['\\', 'b']
  else if c = '\x0c' then ['\\', 'f']
  else if c = '\n' then ['\\', 'n']
  else if c = '\r' then ['\\', 'r']
  else if c = '\t' then ['\\', 't']
  else if c.toNat < 0x20 then '\\' :: 'u' :: Text.fourHexDigits c.toNat
  else [c]

def quoted (s : String) : List Char :=
  '"' :: s.toList.flatMap escape ++ ['"']

mutual

def text : Json → List Char
  | null => ['n', 'u', 'l', 'l']
  | bool true => ['t', 'r', 'u', 'e']
  | bool false => ['f', 'a', 'l', 's', 'e']
  | number n => n.text
  | string s => quoted s
  | array [] => ['[', ']']
  | array (first :: rest) => '[' :: text first ++ itemsText rest
  | object [] => ['\x7b', '\x7d']
  | object ((key, value) :: rest) =>
      '\x7b' :: quoted key ++ ':' :: text value ++ membersText rest

/-- The items after the first one, up to the closing bracket. -/
def itemsText : List Json → List Char
  | [] => [']']
  | item :: rest => ',' :: text item ++ itemsText rest

/-- The members after the first one, up to the closing brace. -/
def membersText : List (String × Json) → List Char
  | [] => ['\x7d']
  | (key, value) :: rest => ',' :: quoted key ++ ':' :: text value ++ membersText rest

end

def compact (value : Json) : String :=
  String.ofList value.text

end Json
end RecordFilter
