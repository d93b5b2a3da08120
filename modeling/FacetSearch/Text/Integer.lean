/-!
# Integers in text

Integers written in decimal digits, with an optional sign, that fit 64 bits.
-/

namespace FacetSearch.Text

/-- The number that a text of digits writes. -/
def natural? (cs : List Char) : Option Nat :=
  if cs.isEmpty then none
  else cs.foldlM (fun n c => if c.isDigit then some (n * 10 + (c.toNat - '0'.toNat)) else none) 0

/-- A signed 64-bit integer. -/
def int64? (s : String) : Option Int :=
  let n := match s.toList with
    | '-' :: cs => (natural? cs).map fun n => -(n : Int)
    | '+' :: cs => (natural? cs).map Int.ofNat
    | cs => (natural? cs).map Int.ofNat
  n.filter fun n => decide (-0x8000000000000000 ≤ n ∧ n < 0x8000000000000000)

/-- An unsigned 64-bit integer; a minus sign is refused. -/
def uint64? (s : String) : Option Nat :=
  let n := match s.toList with
    | '+' :: cs => natural? cs
    | cs => natural? cs
  n.filter (· < 0x10000000000000000)

end FacetSearch.Text
