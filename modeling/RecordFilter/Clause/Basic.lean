import RecordFilter.Operator
import RecordFilter.Target

/-!
# Clauses

A clause compares a subject with an object: a target or a literal on the left, an operator, and
on the right an object of the shape that the operator's family takes.  Clauses are built in that
order, and each stage of the building has its own form.
-/

namespace RecordFilter

inductive Operand where
  | target (target : Target)
  | literal (value : Literal)
deriving DecidableEq

namespace Operand

/-- The operand that a whole record would be; filters cannot hold it. -/
def isRoot : Operand → Bool
  | target t => t.isRoot
  | literal _ => false

def same : Operand → Operand → Bool
  | target a, target b => a == b
  | literal a, literal b => a == b
  | _, _ => false

instance : BEq Operand := ⟨same⟩

end Operand

inductive Object where
  | operand (operand : Operand)
  | array (items : List Literal)
  | range (range : Range)
  | pattern (pattern : Pattern)
deriving DecidableEq

namespace Object

def family : Object → OperatorFamily
  | operand _ => .comparison
  | array _ => .membership
  | range _ => .range
  | pattern _ => .pattern

def shapeName : Object → String
  | operand (.target _) => "target"
  | operand (.literal value) => value.typeName
  | array _ => "array"
  | range _ => "range"
  | pattern _ => "pattern"

def isRoot : Object → Bool
  | operand o => o.isRoot
  | _ => false

def same : Object → Object → Bool
  | operand a, operand b => a == b
  | array a, array b => a == b
  | range a, range b => a == b
  | pattern a, pattern b => a == b
  | _, _ => false

instance : BEq Object := ⟨same⟩

end Object

inductive Clause where
  | started (subject : Operand)
  | selected (subject : Operand) (operator : Operator)
  | complete (subject : Operand) (operator : Operator) (object : Object)
deriving DecidableEq

inductive Stage where
  | subjectSet
  | operatorSet
  | valid
deriving DecidableEq

namespace Stage

def name : Stage → String
  | subjectSet => "subject-set"
  | operatorSet => "operator-set"
  | valid => "valid"

end Stage

namespace Clause

def subject : Clause → Operand
  | started s => s
  | selected s _ => s
  | complete s _ _ => s

def operator? : Clause → Option Operator
  | started _ => none
  | selected _ op => some op
  | complete _ op _ => some op

def object? : Clause → Option Object
  | started _ => none
  | selected _ _ => none
  | complete _ _ object => some object

def stage : Clause → Stage
  | started _ => .subjectSet
  | selected _ _ => .operatorSet
  | complete _ _ _ => .valid

def isValid (clause : Clause) : Bool :=
  clause.stage == .valid

/-- Whether the root pointer stands on either side. -/
def hasRoot (clause : Clause) : Bool :=
  clause.subject.isRoot || clause.object?.any Object.isRoot

def same : Clause → Clause → Bool
  | started s, started t => s == t
  | selected s op, selected t op' => s == t && op == op'
  | complete s op object, complete t op' object' => s == t && op == op' && object == object'
  | _, _ => false

instance : BEq Clause := ⟨same⟩

end Clause

end RecordFilter
