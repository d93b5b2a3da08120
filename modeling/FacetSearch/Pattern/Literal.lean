/-!
# Literal patterns

The regular expression that matches a text literally.
-/

namespace FacetSearch.Pattern

/-- The characters that may mean something in a regular expression. -/
def metaChars : List Char :=
  ['\\', '.', '+', '*', '?', '(', ')', '|', '[', ']', '\x7b', '\x7d', '^', '$', '#', '&', '-',
    '~']

/-- A backslash before every character that may mean something. -/
def literal (s : String) : String :=
  String.ofList (s.toList.flatMap fun c => if c ∈ metaChars then ['\\', c] else [c])

end FacetSearch.Pattern
