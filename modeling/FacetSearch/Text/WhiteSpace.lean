/-!
# White space

The characters with the Unicode property `White_Space`, and text without them at its ends.
-/

namespace FacetSearch.Text

/-- The Unicode property `White_Space`: twenty-five characters in ten runs. -/
def isWhiteSpace (c : Char) : Bool :=
  let n := c.toNat
  (0x09 ≤ n && n ≤ 0x0D) || n == 0x20 || n == 0x85 || n == 0xA0 || n == 0x1680 ||
    (0x2000 ≤ n && n ≤ 0x200A) || n == 0x2028 || n == 0x2029 || n == 0x202F || n == 0x205F ||
    n == 0x3000

/-- The characters without the white space at both ends. -/
def trimChars (cs : List Char) : List Char :=
  ((cs.dropWhile isWhiteSpace).reverse.dropWhile isWhiteSpace).reverse

/-- The text without the white space at both ends. -/
def trim (s : String) : String := String.ofList (trimChars s.toList)

/-- Text of white space only, the empty text included. -/
def isBlank (s : String) : Bool := s.toList.all isWhiteSpace

end FacetSearch.Text
