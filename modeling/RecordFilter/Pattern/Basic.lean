/-!
# Wildcard patterns

A pattern describes whole strings without regard to case: an asterisk stands for any run of
characters, an underscore for any one character, and a backslash takes the meaning off the
character behind it.
-/

namespace RecordFilter

structure Pattern where
  raw : String
deriving DecidableEq

namespace Pattern

inductive Item where
  | anyRun
  | anyOne
  | literal (c : Char)
deriving DecidableEq

namespace Item

/-- The item of a character that stands alone. -/
def ofChar (c : Char) : Item :=
  if c = '*' then anyRun
  else if c = '_' then anyOne
  else literal c

end Item

/-- A backslash at the end stands for itself. -/
def itemsOf : List Char → List Item
  | [] => []
  | c :: rest =>
      if c = '\\' then
        match rest with
        | [] => [.literal c]
        | d :: rest' => .literal d :: itemsOf rest'
      else .ofChar c :: itemsOf rest

def items (pattern : Pattern) : List Item :=
  itemsOf pattern.raw.toList

end Pattern

end RecordFilter
