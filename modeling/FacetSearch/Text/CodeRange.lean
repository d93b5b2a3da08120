/-!
# Ranges of code points

A set of characters given as increasing, disjoint, closed ranges of code points.
-/

namespace FacetSearch.Text

/-- Membership in the set that an increasing list of closed ranges describes. -/
def inRanges : List (Nat × Nat) → Nat → Bool
  | [], _ => false
  | (lo, hi) :: rest, n => if n < lo then false else if n ≤ hi then true else inRanges rest n

end FacetSearch.Text
