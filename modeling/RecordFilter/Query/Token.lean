import RecordFilter.Clause.Basic
import RecordFilter.Text.Inspect

/-!
# Tokens

A query is a list of tokens, each with the place where it starts.  Words that are no keyword are
kept as tokens too, so that they can be reported.
-/

namespace RecordFilter
namespace Query

inductive TokenKind where
  | target (target : Target)
  | string (content : String)
  | number (value : Number)
  | boolean (value : Bool)
  | nil
  | and
  | or
  | openGroup
  | closeGroup
  | openArray
  | closeArray
  | comma
  | operator (operator : Operator)
  | word (text : String)
deriving DecidableEq

structure Token where
  kind : TokenKind
  position : Nat
deriving DecidableEq

namespace TokenKind

def literal? : TokenKind → Option Literal
  | string s => some (.string s)
  | number n => some (.number n)
  | boolean b => some (.boolean b)
  | nil => some .nil
  | _ => none

def operand? : TokenKind → Option Operand
  | target t => some (.target t)
  | kind => kind.literal?.map .literal

/-- A boolean is a literal but bounds no range. -/
def bound? : TokenKind → Option Literal
  | boolean _ => none
  | kind => kind.literal?

def describe : TokenKind → String
  | target t => "target `" ++ t.pointer ++ "`"
  | string s => "string " ++ Text.inspect s
  | number n => "number " ++ String.ofList n.text
  | boolean b => "boolean " ++ (if b then "true" else "false")
  | nil => "`nil`"
  | and => "`and`"
  | or => "`or`"
  | openGroup => "`(`"
  | closeGroup => "`)`"
  | openArray => "`[`"
  | closeArray => "`]`"
  | comma => "`,`"
  | operator op => "operator `" ++ op.keyword ++ "`"
  | word text => "word `" ++ text ++ "`"

def ofWord (word : String) : TokenKind :=
  if word = "and" then and
  else if word = "or" then or
  else if word = "true" then boolean true
  else if word = "false" then boolean false
  else if word = "nil" then nil
  else
    match Operator.ofKeyword? word with
    | some op => operator op
    | none => .word word

end TokenKind

end Query
end RecordFilter
