/-!
# Runs of case mappings

Mappings of characters to other forms, where regular runs of them are given together.
-/

namespace FacetSearch.Text

/-- Every `step`-th code point from `first` to `last` has its other form `shift` further on. -/
structure CaseRun where
  first : Nat
  last : Nat
  step : Nat
  shift : Int

end FacetSearch.Text
