import FacetSearch.Decimal.Shortest

/-!
# Layout of decimals

How a decimal is written: with a point in place, or with an exponent.
-/

namespace FacetSearch

/-- The decisions of one number format. -/
structure DecimalLayout where
  /-- The exponents of the leading digit, from the first to before the second, for which the
  point is written in place; `none` if it always is. -/
  positional : Option (Int × Int)
  /-- Whole numbers end in `.0`. -/
  keepPoint : Bool

namespace DecimalLayout

/-- The digits with the point in place. -/
def positionalText (l : DecimalLayout) (d : Decimal) : List Char :=
  let digits := Nat.toDigits 10 d.digits
  let whole : Int := digits.length + d.exponent
  if 0 ≤ d.exponent then
    digits ++ List.replicate d.exponent.toNat '0' ++ (if l.keepPoint then ['.', '0'] else [])
  else if 0 < whole then digits.take whole.toNat ++ '.' :: digits.drop whole.toNat
  else ['0', '.'] ++ List.replicate (-whole).toNat '0' ++ digits

/-- One digit before the point and a signed exponent after the last. -/
def scientificText (d : Decimal) : List Char :=
  let digits := Nat.toDigits 10 d.digits
  let leading : Int := digits.length + d.exponent - 1
  let fraction := digits.drop 1
  digits.take 1 ++ (if fraction.isEmpty then [] else '.' :: fraction) ++
    'e' :: (if leading < 0 then '-' else '+') :: Nat.toDigits 10 leading.natAbs

def text (l : DecimalLayout) (d : Decimal) : List Char :=
  let leading : Int := (Nat.toDigits 10 d.digits).length + d.exponent - 1
  match l.positional with
  | none => l.positionalText d
  | some (low, high) =>
    if d.digits = 0 ∨ (low ≤ leading ∧ leading < high) then l.positionalText d
    else scientificText d

/-- A floating-point number in this layout. -/
def float (l : DecimalLayout) (x : Float) : String :=
  if x.isNaN then "NaN"
  else
    let sign := if x.toBits.toNat < 0x8000000000000000 then [] else ['-']
    String.ofList (sign ++ if x.isInf then ['i', 'n', 'f'] else l.text (shortestDecimal x))

/-- Always a point in place, and none for a whole number. -/
def plain : DecimalLayout := ⟨none, false⟩

end DecimalLayout

end FacetSearch
