/-!
# Path labels

The label under which requests for a path are counted.
-/

namespace FacetSearch

/-- The path without slashes at its end. -/
def dropSlashes (path : String) : List Char :=
  (path.toList.reverse.dropWhile (· = '/')).reverse

/-- Paths of the service keep their own label; all others share one. -/
def pathLabel (path : String) : String :=
  let short := dropSlashes path
  if short = [] then "/"
  else if "/api/v1/advsearch/".toList.isPrefixOf short ∨ short = "/health".toList ∨
      short = "/metrics".toList then String.ofList short
  else "/other"

end FacetSearch
