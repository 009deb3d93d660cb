import RecordFilter.Clause.Error

/-!
# Building clauses

A clause starts with its subject, takes one operator and then one object.  A call out of this
order is refused before its arguments are looked at, and an object must have the shape that the
operator takes.
-/

namespace RecordFilter
namespace Clause

/-!
# Subjects
-/

/-- The target of a pointer as it may stand in a clause: the root has no written form. -/
def targetOf (pointer : String) : Except FilterError Target :=
  if pointer.isEmpty then .error .rootTarget
  else (Target.parse pointer).mapError .invalidTarget

def ofOperand (subject : Operand) : Clause :=
  started subject

def ofTarget (pointer : String) : Except FilterError Clause := do
  let target ← targetOf pointer
  return ofOperand (.target target)

def ofLiteral (value : Literal) : Clause :=
  ofOperand (.literal value)

/-!
# Operators
-/

def select (clause : Clause) (operator : Operator) : Except FilterError Clause :=
  match clause with
  | started subject => .ok (selected subject operator)
  | _ => .error (.invalidSequence .selectOperator clause.stage)

/-!
# Objects
-/

def bind (clause : Clause) (object : Object) : Except FilterError Clause :=
  match clause with
  | selected subject operator =>
      if object.family = operator.family then .ok (complete subject operator object)
      else .error (.typeMismatch operator operator.family.objectShape object.shapeName)
  | _ => .error (.invalidSequence .bindObject clause.stage)

def bindLiteral (clause : Clause) (value : Literal) : Except FilterError Clause :=
  clause.bind (.operand (.literal value))

def bindTarget (clause : Clause) (pointer : String) : Except FilterError Clause :=
  match clause with
  | selected _ _ => do
      let target ← targetOf pointer
      clause.bind (.operand (.target target))
  | _ => .error (.invalidSequence .bindObject clause.stage)

def bindArray (clause : Clause) (items : List Literal) : Except FilterError Clause :=
  clause.bind (.array items)

def bindRange (clause : Clause) (lower upper : Bound) : Except FilterError Clause :=
  clause.bind (.range (Range.ofBounds lower upper))

/-- A side of a range from a literal, which a boolean cannot give. -/
def boundOf (operator : Operator) (value : Literal) : Except FilterError Bound :=
  match Bound.ofLiteral? value with
  | some bound => .ok bound
  | none => .error (.typeMismatch operator "a number, string or nil bound" value.typeName)

def bindLiterals (clause : Clause) (lower upper : Literal) : Except FilterError Clause :=
  match clause with
  | selected _ operator => do
      let lower ← boundOf operator lower
      let upper ← boundOf operator upper
      clause.bindRange lower upper
  | _ => .error (.invalidSequence .bindObject clause.stage)

def bindPattern (clause : Clause) (raw : String) : Except FilterError Clause :=
  clause.bind (.pattern ⟨raw⟩)

end Clause
end RecordFilter
