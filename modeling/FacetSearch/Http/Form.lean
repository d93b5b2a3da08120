import FacetSearch.Text.Bytes
import FacetSearch.Text.Hex

/-!
# Form-encoded parameters

The parameters in the query of a URI: `&` separates them and the first `=` of each its name
from its value, `+` is a space, and `%` with two hexadecimal digits is a byte. Whatever
does not follow these rules stands for itself.
-/

namespace FacetSearch.Form

/-- The value of a byte that is a hexadecimal digit. -/
def hexValue? (b : UInt8) : Option Nat := Text.hexValue? (Char.ofNat b.toNat)

/-- The bytes that `%` and two digits stand for. -/
def percentDecode : Bytes → Bytes
  | [] => []
  | b :: rest =>
    if b = 0x25 then
      match rest with
      | high :: low :: rest' =>
        match hexValue? high, hexValue? low with
        | some h, some l => UInt8.ofNat (h * 16 + l) :: percentDecode rest'
        | _, _ => b :: percentDecode (high :: low :: rest')
      | [x] => [b, x]
      | [] => [b]
    else b :: percentDecode rest
termination_by bytes => bytes.length

/-- The text of a name or a value. -/
def decode (b : Bytes) : String :=
  Bytes.textReplacing (percentDecode (b.map fun x => if x = 0x2B then 0x20 else x))

/-- The parts before and after the first `=`; without one, all of it and nothing. -/
def splitPair (b : Bytes) : Bytes × Bytes :=
  (b.takeWhile (· ≠ 0x3D), (b.dropWhile (· ≠ 0x3D)).drop 1)

/-- The parameters of a query, in order. -/
def parse (query : Bytes) : List (String × String) :=
  ((query.splitOn 0x26).filter (· ≠ [])).map fun part =>
    ((decode (splitPair part).1), (decode (splitPair part).2))

/-- The value of a parameter that may be given once; the outer `none` if it is given more
often. -/
def single? (parameters : List (String × String)) (name : String) : Option (Option String) :=
  match parameters.filter (·.1 = name) with
  | [] => some none
  | [(_, value)] => some (some value)
  | _ => none

end FacetSearch.Form
