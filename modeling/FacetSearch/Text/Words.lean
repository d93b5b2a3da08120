import FacetSearch.Text.Alphanumeric
import FacetSearch.Text.CommaList
import FacetSearch.Text.LowerCase

/-!
# Words of free text

Free text is searched by its words: the runs of letters and digits, in lower case, each
word once.
-/

namespace FacetSearch.Text

/-- The maximal runs of letters and digits. -/
def wordRuns (s : String) : List String :=
  ((s.toList.splitOnP fun c => !isAlphanumeric c).filter (· ≠ [])).map String.ofList

/-- The distinct lower-case words of a text, in order of first occurrence. -/
def searchTerms (s : String) : List String := appendNew [] ((wordRuns s).map lowerCase)

end FacetSearch.Text
