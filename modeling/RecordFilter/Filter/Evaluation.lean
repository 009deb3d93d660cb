import RecordFilter.Clause.Evaluation
import RecordFilter.Filter.Basic

/-!
# Evaluating filters

Conjunctions have no precedence over each other: elements are combined strictly from left to
right, and only groups change that order.
-/

namespace RecordFilter

mutual

def Node.holds [Pattern.Engine] {ρ : Type} [Record ρ] (record : ρ) : Node → Bool
  | .clause clause => clause.holds record
  | .group filter => filter.holds record

/-- Whether a record satisfies the filter. -/
def Filter.holds [Pattern.Engine] {ρ : Type} [Record ρ] (record : ρ) : Filter → Bool
  | .single node => node.holds record
  | .join left conjunction node =>
      conjunction.combine (left.holds record) (node.holds record)

end

end RecordFilter
