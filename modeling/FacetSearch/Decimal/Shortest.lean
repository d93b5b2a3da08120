/-!
# Shortest decimals

The decimal with the fewest digits that reads back as a given binary floating-point number,
and of several such decimals the nearest one.
-/

namespace FacetSearch

/-- The number `digits * 10 ^ exponent`. -/
structure Decimal where
  digits : Nat
  exponent : Int
deriving DecidableEq, Repr

namespace Decimal

/-- The decimal with its trailing zeros moved into the exponent; zero has exponent zero. -/
def normalizeAux : Nat → Decimal → Decimal
  | 0, d => d
  | fuel + 1, d =>
    if d.digits = 0 then ⟨0, 0⟩
    else if d.digits % 10 = 0 then normalizeAux fuel ⟨d.digits / 10, d.exponent + 1⟩
    else d

def normalize (d : Decimal) : Decimal := normalizeAux d.digits d

/-- A positive number `value / unit` with the ends of the interval of numbers that are read
as it, over the same unit. The ends belong to the interval when `closed` holds. -/
structure Rounding where
  low : Nat
  value : Nat
  high : Nat
  unit : Nat
  closed : Bool

/-- The interval of `significand * 2 ^ exponent`. Below a power of two the numbers lie twice
as dense, so that there the lower end is half as far away (`narrow`). -/
def Rounding.ofBinary (significand : Nat) (exponent : Int) (narrow : Bool) : Rounding :=
  let scale := Nat.pow 2 exponent.toNat
  { low := (4 * significand - if narrow then 1 else 2) * scale
    value := 4 * significand * scale
    high := (4 * significand + 2) * scale
    unit := 4 * Nat.pow 2 (-exponent).toNat
    closed := significand % 2 == 0 }

/-- The number of decimal digits of a positive number. -/
def digitCount (n : Nat) : Nat := (Nat.toDigits 10 n).length

/-- The exponent of the leading decimal digit. -/
def Rounding.leading (r : Rounding) : Int :=
  if r.unit ≤ r.value then digitCount (r.value / r.unit) - 1
  else -(digitCount ((r.unit - 1) / r.value) : Int)

/-- Whether the interval, scaled by `up`, holds a multiple of the unit. -/
def Rounding.holds (r : Rounding) (up point : Nat) : Bool :=
  if r.closed then r.low * up ≤ point && point ≤ r.high * up
  else r.low * up < point && point < r.high * up

/-- The multiple of `10 ^ exponent` in the interval that is nearest to the value, the even
one of two equally near; `none` if the interval holds none of the two next to the value. -/
def Rounding.onGrid? (r : Rounding) (exponent : Int) : Option Decimal :=
  let up := Nat.pow 10 (-exponent).toNat
  let step := r.unit * Nat.pow 10 exponent.toNat
  let below := r.value * up / step
  let rest := r.value * up % step
  let upper := below + 1
  if r.holds up (below * step) then
    if r.holds up (upper * step) && (step < 2 * rest || (2 * rest == step && below % 2 == 1)) then
      some ⟨upper, exponent⟩
    else some ⟨below, exponent⟩
  else if r.holds up (upper * step) then some ⟨upper, exponent⟩
  else none

/-- The first grid with a point in the interval, starting with `digits` digits. -/
def Rounding.shortestFrom (r : Rounding) : Nat → Nat → Decimal
  | 0, digits => ⟨r.value * Nat.pow 10 digits / r.unit, -digits⟩
  | fuel + 1, digits =>
    match r.onGrid? (r.leading - digits + 1) with
    | some d => d
    | none => r.shortestFrom fuel (digits + 1)

/-- The shortest decimal in the interval. Seventeen digits tell any two double-precision
numbers apart. -/
def Rounding.shortest (r : Rounding) : Decimal := (r.shortestFrom 17 1).normalize

end Decimal

/-- The magnitude of a finite double-precision number: its shortest decimal. -/
def shortestDecimal (x : Float) : Decimal :=
  let bits := x.toBits.toNat
  let fraction := bits % 0x10000000000000
  let biased := bits / 0x10000000000000 % 0x800
  let significand := if biased = 0 then fraction else 0x10000000000000 + fraction
  if significand = 0 then ⟨0, 0⟩
  else
    (Decimal.Rounding.ofBinary significand ((max biased 1 : Nat) - 1075 : Int)
      (fraction == 0 && 1 < biased)).shortest

end FacetSearch
