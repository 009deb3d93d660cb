/-!
# Sets of code points

A property of characters holds on long runs of code points.  A set is kept as the increasing
list of the code points at which membership changes: the first one enters the set, the second
one leaves it, and so on.
-/

namespace RecordFilter
namespace Text

structure CodePointSet where
  flips : List Nat

namespace CodePointSet

/-- Membership below the first change is `false`, and each change passed turns it over. -/
def holds : List Nat → Nat → Bool
  | [], _ => false
  | flip :: flips, point => decide (flip ≤ point) && !holds flips point

def contains (set : CodePointSet) (c : Char) : Bool :=
  holds set.flips c.toNat

end CodePointSet

end Text
end RecordFilter
