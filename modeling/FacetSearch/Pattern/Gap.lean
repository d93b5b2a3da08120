import FacetSearch.Text.WhiteSpace

/-!
# Gaps

White space and comments, which mean nothing between the parts of a verbose pattern. A comment
begins with `#` and ends with the line.
-/

namespace FacetSearch.Pattern

/-- The text after the white space and the comments at its start, which is in a comment
already if `inComment`. -/
def dropGap (inComment : Bool) : List Char → List Char
  | [] => []
  | c :: cs =>
    if inComment then dropGap (c != '\n') cs
    else if Text.isWhiteSpace c then dropGap false cs
    else if c = '#' then dropGap true cs
    else c :: cs

/-- The text after a gap; there are none unless the pattern is verbose. -/
def skip (verbose : Bool) (cs : List Char) : List Char :=
  if verbose then dropGap false cs else cs

/-- The next character that counts when a range of characters may follow. Of a comment only
its sign is passed over, and where nothing but a gap follows, the gap counts. -/
def lookAhead (verbose : Bool) (cs : List Char) : Option Char :=
  if verbose then
    let rest := match cs.dropWhile Text.isWhiteSpace with
      | '#' :: cs => cs.dropWhile Text.isWhiteSpace
      | cs => cs
    rest.head?.or cs.head?
  else cs.head?

/-- What stands before the next closing brace, without gaps, and what follows the brace. -/
def untilBrace (verbose inComment : Bool) : List Char → Option (List Char × List Char)
  | [] => none
  | c :: cs =>
    if inComment then untilBrace verbose (c != '\n') cs
    else if verbose && Text.isWhiteSpace c then untilBrace verbose false cs
    else if verbose && c == '#' then untilBrace verbose true cs
    else if c = '\x7d' then some ([], cs)
    else (untilBrace verbose false cs).map fun (inner, rest) => (c :: inner, rest)

end FacetSearch.Pattern
