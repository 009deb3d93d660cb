import RecordFilter.Json.Basic
import RecordFilter.Pattern.Expression
import RecordFilter.Text.CaseFold
import RecordFilter.Text.Inspect

/-!
# Matching patterns

A row holds, for each suffix of the text from the whole down to the empty one, whether some items
match it.  Putting an item in front turns one row into the next.  A pattern whose expression the
engine refuses matches nothing.
-/

namespace RecordFilter
namespace Pattern

namespace Item

/-- The item with its letter folded, so that only folded texts need to be compared. -/
def fold : Item → Item
  | literal c => literal (Text.foldCase c)
  | item => item

end Item

def emptyRow (text : List Char) : List Bool :=
  text.map (fun _ => false) ++ [true]

def nextRow (text : List Char) (item : Item) (row : List Bool) : List Bool :=
  match item with
  | .anyRun => row.foldr (fun here later => (here || later.headD false) :: later) []
  | .anyOne => row.drop 1 ++ [false]
  | .literal c => List.zipWith (fun d later => c == d && later) text (row.drop 1) ++ [false]

def matchesItems (items : List Item) (text : List Char) : Bool :=
  (items.foldr (nextRow text) (emptyRow text)).headD false

def matchesText [Engine] (pattern : Pattern) (text : String) : Bool :=
  pattern.compiles &&
    matchesItems (pattern.items.map Item.fold) (text.toList.map Text.foldCase)

def matchesValue [Engine] (pattern : Pattern) : Json → Bool
  | .string text => pattern.matchesText text
  | _ => false

/-!
# Patterns in use

The expression is built when the first string is matched, and is kept if it can be built.
-/

structure Matcher where
  pattern : Pattern
  built : Bool := false

namespace Matcher

def run [Engine] (matcher : Matcher) (value : Json) : Bool × Matcher :=
  match value with
  | .string _ =>
      (matcher.pattern.matchesValue value,
        { matcher with built := matcher.built || matcher.pattern.compiles })
  | _ => (false, matcher)

def describe (matcher : Matcher) : String :=
  "Pattern \x7b raw: " ++ Text.inspect matcher.pattern.raw ++ ", compiled: " ++
    (if matcher.built then "true" else "false") ++ " \x7d"

end Matcher

end Pattern
end RecordFilter
