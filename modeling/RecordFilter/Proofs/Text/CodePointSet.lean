import RecordFilter.Text.CodePointSet

/-!
# Walking along a set of code points

Membership can also be found by walking along the changes and keeping what holds so far.  Nothing
is left to be done behind the walk, so long sets can be evaluated this way.
-/

namespace RecordFilter
namespace Text
namespace CodePointSet

def walk : Bool → List Nat → Nat → Bool
  | inside, [], _ => inside
  | false, flip :: flips, point => if flip ≤ point then walk true flips point else false
  | true, flip :: flips, point => if flip ≤ point then walk false flips point else true

theorem walk_eq (inside : Bool) (flips : List Nat) (point : Nat) :
    walk inside flips point = (inside != holds flips point) := by
  induction flips generalizing inside with
  | nil =>
      cases inside <;> rfl
  | cons flip flips ih =>
      cases inside with
      | false =>
          by_cases h : flip ≤ point <;> simp [walk, holds, h, ih]
      | true =>
          by_cases h : flip ≤ point <;> simp [walk, holds, h, ih]

theorem contains_eq_walk (set : CodePointSet) (c : Char) :
    set.contains c = walk false set.flips c.toNat := by
  rw [walk_eq, Bool.false_bne]
  rfl

end CodePointSet
end Text
end RecordFilter
