import RecordFilter.Pattern.Basic

/-!
# Expressions of patterns

A pattern has a regular expression with the same meaning.  It is anchored at both ends, and
characters that mean something in expressions are escaped.  An engine builds the expression, or
refuses it.
-/

namespace RecordFilter
namespace Pattern

def isMeta (c : Char) : Bool :=
  ['\\', '.', '+', '*', '?', '(', ')', '|', '[', ']', '\x7b', '\x7d', '^', '$', '#', '&', '-',
    '~'].contains c

namespace Item

def expression : Item → List Char
  | anyRun => ['.', '*']
  | anyOne => ['.']
  | literal c => if isMeta c then ['\\', c] else [c]

def isWildcard : Item → Bool
  | literal _ => false
  | _ => true

end Item

def expressionText (pattern : Pattern) : List Char :=
  '^' :: pattern.items.flatMap Item.expression ++ ['$']

def expression (pattern : Pattern) : String :=
  String.ofList pattern.expressionText

/--
What builds expressions.  It may refuse any of them, and does refuse those that take up too much
room, but how much room an expression takes up is its own affair.
-/
class Engine where
  builds : List Char → Bool

def compiles [Engine] (pattern : Pattern) : Bool :=
  Engine.builds pattern.expressionText

end Pattern
end RecordFilter
