import FacetSearch.Pattern.Automaton.Construction
import FacetSearch.Pattern.Meaning
import FacetSearch.Pattern.Reader

/-!
# Validity of patterns

Which texts are regular expressions that can be matched.
-/

namespace FacetSearch.Pattern

/-- Patterns are not nested deeper than this. -/
def maxDepth : Nat := 250

/-- A text is a valid pattern if it is written as one, is not nested too deeply, means
something, and does not ask for an automaton that is too large. -/
def isValid (s : String) : Bool :=
  match parse? s with
  | none => false
  | some n =>
    n.depth ≤ maxDepth &&
      match n.meaning? {} with
      | none => false
      | some (_, e) => e.isFeasible

end FacetSearch.Pattern
