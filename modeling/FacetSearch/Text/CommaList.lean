import FacetSearch.Text.WhiteSpace

/-!
# Comma-delimited lists

A list typed as one text. Items are trimmed, blank items do not count, and of equal items
only the first is kept, so a list read this way is an ordered set.
-/

namespace FacetSearch.Text

/-- `xs` followed by `x`, unless `x` is already there. -/
def insertLast [DecidableEq α] (xs : List α) (x : α) : List α :=
  if x ∈ xs then xs else xs ++ [x]

/-- The members of `ys` in order of first occurrence, after those of `xs`. -/
def appendNew [DecidableEq α] (xs ys : List α) : List α := ys.foldl insertLast xs

/-- The trimmed texts between commas that are not blank, with repetitions. -/
def commaItems (s : String) : List String :=
  ((s.toList.splitOn ',').map fun part => String.ofList (trimChars part)).filter (· ≠ "")

/-- The ordered set of trimmed, non-blank items of a comma-delimited text. -/
def splitList (s : String) : List String := appendNew [] (commaItems s)

end FacetSearch.Text
