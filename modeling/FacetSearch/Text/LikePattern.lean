/-!
# LIKE patterns

Text written into a `LIKE` pattern whose escape character is the backslash, so that the
text is matched literally: as the whole value, at its start, at its end, or anywhere in it.
-/

namespace FacetSearch.Text

/-- The characters with a meaning of their own in a pattern. -/
def isLikeMeta (c : Char) : Bool := c == '\\' || c == '%' || c == '_'

/-- A backslash before every character that has a meaning of its own. -/
def likeEscapeChars : List Char → List Char
  | [] => []
  | c :: cs => if isLikeMeta c then '\\' :: c :: likeEscapeChars cs else c :: likeEscapeChars cs

/-- The pattern that matches the text itself. -/
def likeLiteral (s : String) : String := String.ofList (likeEscapeChars s.toList)

/-- The pattern that matches every value containing the text. -/
def likeContains (s : String) : String := "%" ++ likeLiteral s ++ "%"

/-- The pattern that matches every value beginning with the text. -/
def likeStartsWith (s : String) : String := likeLiteral s ++ "%"

/-- The pattern that matches every value ending with the text. -/
def likeEndsWith (s : String) : String := "%" ++ likeLiteral s

end FacetSearch.Text
