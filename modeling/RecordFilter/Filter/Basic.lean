import RecordFilter.Clause.Builder

/-!
# Filters

A filter joins clauses and groups with conjunctions.  It starts with one element, and every
further element comes with the conjunction that is written before it.
-/

namespace RecordFilter

inductive Conjunction where
  | and
  | or
deriving DecidableEq

namespace Conjunction

def keyword : Conjunction → String
  | and => "and"
  | or => "or"

def combine : Conjunction → Bool → Bool → Bool
  | and, left, right => left && right
  | or, left, right => left || right

end Conjunction

mutual

inductive Node where
  | clause (clause : Clause)
  | group (filter : Filter)

inductive Filter where
  | single (node : Node)
  | join (left : Filter) (conjunction : Conjunction) (node : Node)

end

namespace Filter

/-!
# Building

Only complete clauses without the root pointer can be added.
-/

def accept (clause : Clause) : Except FilterError Node :=
  if clause.isValid then
    if clause.hasRoot then .error .rootTarget else .ok (.clause clause)
  else .error (.invalidSequence .addToFilter clause.stage)

def ofClause (clause : Clause) : Except FilterError Filter := do
  let node ← accept clause
  return single node

def ofGroup (group : Filter) : Filter :=
  single (.group group)

def joinClause (filter : Filter) (conjunction : Conjunction) (clause : Clause) :
    Except FilterError Filter := do
  let node ← accept clause
  return join filter conjunction node

def joinGroup (filter : Filter) (conjunction : Conjunction) (group : Filter) : Filter :=
  join filter conjunction (.group group)

/-!
# Contents
-/

/-- The number of elements, where a group counts once. -/
def length : Filter → Nat
  | single _ => 1
  | join left _ _ => left.length + 1

/-- The elements in order, each but the first with its conjunction. -/
def elements : Filter → List (Option Conjunction × Node)
  | single node => [(none, node)]
  | join left conjunction node => left.elements ++ [(some conjunction, node)]

end Filter

mutual

def Node.clauses : Node → List Clause
  | .clause clause => [clause]
  | .group filter => filter.clauses

/-- Every clause in order, those of groups included. -/
def Filter.clauses : Filter → List Clause
  | .single node => node.clauses
  | .join left _ node => left.clauses ++ node.clauses

end

mutual

def Node.depth : Node → Nat
  | .clause _ => 0
  | .group filter => filter.depth + 1

/-- How deep groups nest. -/
def Filter.depth : Filter → Nat
  | .single node => node.depth
  | .join left _ node => max left.depth node.depth

end

/-!
# Equality as data
-/

mutual

def Node.same : Node → Node → Bool
  | .clause a, .clause b => a == b
  | .group f, .group g => f.same g
  | _, _ => false

def Filter.same : Filter → Filter → Bool
  | .single m, .single n => m.same n
  | .join f k m, .join g l n => f.same g && k == l && m.same n
  | _, _ => false

end

instance : BEq Node := ⟨Node.same⟩

instance : BEq Filter := ⟨Filter.same⟩

end RecordFilter
