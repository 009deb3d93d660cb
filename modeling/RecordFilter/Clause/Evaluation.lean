import RecordFilter.Clause.Error
import RecordFilter.Record

/-!
# Evaluating clauses

Operands are resolved against a record first; a target that leads nowhere is absent.  An absent
operand satisfies no base operator, and a negated operator holds exactly where its base fails.
-/

namespace RecordFilter

namespace Operand

def resolve? {ρ : Type} [Record ρ] (record : ρ) : Operand → Option Json
  | target t => Record.resolve? record t
  | literal value => some value.toJson

end Operand

/-- An object after its targets have been looked up. -/
inductive Resolved where
  | value (value : Option Json)
  | array (items : List Literal)
  | range (range : Range)
  | pattern (pattern : Pattern)

namespace Resolved

def family : Resolved → OperatorFamily
  | value _ => .comparison
  | array _ => .membership
  | range _ => .range
  | pattern _ => .pattern

def shapeName : Resolved → String
  | value (some v) => v.typeName
  | value none => "absent value"
  | array _ => "array"
  | range _ => "range"
  | pattern _ => "pattern"

end Resolved

namespace Object

def resolve {ρ : Type} [Record ρ] (record : ρ) : Object → Resolved
  | operand o => .value (o.resolve? record)
  | array items => .array items
  | range r => .range r
  | pattern p => .pattern p

end Object

namespace Operator

/-- Applies an operator as it stands, which is meant for those that are their own base. -/
def applyBase [Pattern.Engine] (operator : Operator) (subject : Option Json) (object : Resolved) :
    Except FilterError Bool :=
  match operator.family, object with
  | .comparison, .value object =>
      match subject, object with
      | some left, some right =>
          match operator.relates? left right with
          | some holds => .ok holds
          | none => .error (.unknownOperator operator.keyword)
      | _, _ => .ok false
  | .membership, .array items =>
      .ok (subject.any fun value => items.any fun item => value.equal item.toJson)
  | .range, .range range => .ok (range.contains subject)
  | .pattern, .pattern pattern => .ok (subject.any pattern.matchesValue)
  | family, object => .error (.typeMismatch operator family.objectShape object.shapeName)

def apply [Pattern.Engine] (operator : Operator) (subject : Option Json) (object : Resolved) :
    Except FilterError Bool :=
  (operator.base.applyBase subject object).map fun holds =>
    if operator.isNegated then !holds else holds

end Operator

namespace Clause

/-- A clause that is not complete holds of no record. -/
def evaluate [Pattern.Engine] {ρ : Type} [Record ρ] (clause : Clause) (record : ρ) :
    Except FilterError Bool :=
  match clause with
  | complete subject operator object =>
      operator.apply (subject.resolve? record) (object.resolve record)
  | _ => .ok false

def holds [Pattern.Engine] {ρ : Type} [Record ρ] (clause : Clause) (record : ρ) : Bool :=
  match clause.evaluate record with
  | .ok result => result
  | .error _ => false

end Clause

end RecordFilter
