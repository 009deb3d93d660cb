import RecordFilter.Json.Order
import RecordFilter.Range
import RecordFilter.Pattern.Matching

/-!
# Operators

The twelve operators fall into four families by the object they take.  Four of them are the
negations of others.
-/

namespace RecordFilter

inductive Operator where
  | eq
  | neq
  | gt
  | gte
  | lt
  | lte
  | isIn
  | notIn
  | between
  | nbetween
  | like
  | nlike
deriving DecidableEq

inductive OperatorFamily where
  | comparison
  | membership
  | range
  | pattern
deriving DecidableEq

namespace OperatorFamily

def name : OperatorFamily → String
  | comparison => "comparison"
  | membership => "membership"
  | range => "range"
  | pattern => "pattern"

/-- What the operators of a family take as their object. -/
def objectShape : OperatorFamily → String
  | comparison => "a literal or target"
  | membership => "an array"
  | range => "a range"
  | pattern => "a pattern"

end OperatorFamily

namespace Operator

def all : List Operator :=
  [eq, neq, gt, gte, lt, lte, isIn, notIn, between, nbetween, like, nlike]

def keyword : Operator → String
  | eq => "eq"
  | neq => "neq"
  | gt => "gt"
  | gte => "gte"
  | lt => "lt"
  | lte => "lte"
  | isIn => "in"
  | notIn => "nin"
  | between => "between"
  | nbetween => "nbetween"
  | like => "like"
  | nlike => "nlike"

def ofKeyword? (keyword : String) : Option Operator :=
  all.find? fun operator => operator.keyword == keyword

def family : Operator → OperatorFamily
  | eq | neq | gt | gte | lt | lte => .comparison
  | isIn | notIn => .membership
  | between | nbetween => .range
  | like | nlike => .pattern

def isNegated : Operator → Bool
  | neq | notIn | nbetween | nlike => true
  | _ => false

/-- The operator that a negated one negates; the others are their own base. -/
def base : Operator → Operator
  | neq => eq
  | notIn => isIn
  | nbetween => between
  | nlike => like
  | operator => operator

/-!
# Comparisons
-/

/--
Whether two values stand in the relation that a comparison names.  Only a comparison that is its
own base names one.
-/
def relates? (operator : Operator) (left right : Json) : Option Bool :=
  match operator with
  | eq => some (left.equal right)
  | gt => some (left.order? right == some .gt)
  | gte => some (left.order? right == some .gt || left.order? right == some .eq)
  | lt => some (left.order? right == some .lt)
  | lte => some (left.order? right == some .lt || left.order? right == some .eq)
  | _ => none

end Operator

end RecordFilter
