import FacetSearch.Json.Basic

/-!
# Reading JSON numbers

A number without fraction and exponent that fits 64 bits is an integer. Any other is a
floating-point number: its digits are gathered in a 64-bit significand as long as they fit,
and the significand, as a floating-point number, is scaled by a power of ten. A result beyond
the largest floating-point number is refused.
-/

namespace FacetSearch.JsonNumber

/-- A significand and the power of ten to scale it by. -/
structure Scaled where
  significand : Nat
  exponent : Int

/-- The value of a decimal digit. -/
def digitValue (c : Char) : Nat := c.toNat - '0'.toNat

/-- The significand with one more digit, if that fits 64 bits. -/
def pushDigit? (significand : Nat) (c : Char) : Option Nat :=
  let next := significand * 10 + digitValue c
  if next < 0x10000000000000000 then some next else none

/-- The digits before the point. From the first that does not fit on, digits count only for
the magnitude. -/
def gatherWhole (significand : Nat) : List Char → Scaled
  | [] => ⟨significand, 0⟩
  | c :: cs =>
    match pushDigit? significand c with
    | some next => gatherWhole next cs
    | none => ⟨significand, (cs.length + 1 : Nat)⟩

/-- The digits after the point, up to the first that does not fit. -/
def gatherFraction (s : Scaled) : List Char → Scaled
  | [] => s
  | c :: cs =>
    match pushDigit? s.significand c with
    | some next => gatherFraction ⟨next, s.exponent - 1⟩ cs
    | none => s

/-- `x / 10 ^ n`, in steps that a floating-point number can express. -/
def scaleDown (x : Float) (n : Nat) : Float :=
  if n ≤ 308 then x / Float.ofScientific 1 false n
  else if x == 0 then x
  else scaleDown (x / Float.ofScientific 1 false 308) (n - 308)
termination_by n

/-- The magnitude as a floating-point number, unless it is too large. -/
def Scaled.toFloat? (s : Scaled) : Option Float :=
  let x := Float.ofNat s.significand
  if s.exponent < 0 then some (scaleDown x (-s.exponent).toNat)
  else if s.significand = 0 then some x
  else if 308 < s.exponent then none
  else
    let y := x * Float.ofScientific 1 false s.exponent.toNat
    if y.isInf then none else some y

/-- The parts of a number's text. -/
structure Parts where
  negative : Bool
  whole : List Char
  fraction : Option (List Char)
  exponent : Option (Bool × List Char)

/-- The digits at the front and what follows them. -/
def spanDigits (cs : List Char) : List Char × List Char :=
  (cs.takeWhile Char.isDigit, cs.dropWhile Char.isDigit)

/-- The exponent of a number, `true` for a negative one, if nothing follows it. -/
def exponentPart? (cs : List Char) : Option (Bool × List Char) :=
  let (negative, rest) := match cs with
    | '-' :: rest => (true, rest)
    | '+' :: rest => (false, rest)
    | _ => (false, cs)
  match spanDigits rest with
  | ([], _) => none
  | (digits, []) => some (negative, digits)
  | _ => none

/-- What follows the digits before the point. -/
def tailParts? (negative : Bool) (whole cs : List Char) : Option Parts :=
  match cs with
  | [] => some ⟨negative, whole, none, none⟩
  | '.' :: rest =>
    match spanDigits rest with
    | ([], _) => none
    | (digits, []) => some ⟨negative, whole, some digits, none⟩
    | (digits, e :: rest) =>
      if e = 'e' ∨ e = 'E' then
        (exponentPart? rest).map fun exponent => ⟨negative, whole, some digits, some exponent⟩
      else none
  | e :: rest =>
    if e = 'e' ∨ e = 'E' then
      (exponentPart? rest).map fun exponent => ⟨negative, whole, none, some exponent⟩
    else none

/-- The parts of a text that has the form of a JSON number: digits without a leading zero,
and if present a point with digits and an exponent with digits. -/
def parts? (cs : List Char) : Option Parts :=
  let (negative, rest) := match cs with
    | '-' :: rest => (true, rest)
    | _ => (false, cs)
  match spanDigits rest with
  | ([], _) => none
  | ('0' :: _ :: _, _) => none
  | (whole, rest) => tailParts? negative whole rest

/-- The number that a list of digits writes. -/
def digitsValue (cs : List Char) : Nat := cs.foldl (fun n c => n * 10 + digitValue c) 0

/-- The floating-point number with these parts, unless it is too large. -/
def Parts.toFloat? (p : Parts) : Option Float :=
  let whole := gatherWhole 0 p.whole
  let s := match p.fraction with
    | none => whole
    | some digits => gatherFraction whole digits
  let magnitude := match p.exponent with
    | none => s.toFloat?
    | some (down, digits) =>
      let e := digitsValue digits
      if e < 0x80000000 then
        Scaled.toFloat? ⟨s.significand, if down then s.exponent - e else s.exponent + e⟩
      else if s.significand = 0 ∨ down then some 0
      else none
  magnitude.map fun x => if p.negative then -x else x

def ofParts? (p : Parts) : Option JsonNumber :=
  let n := digitsValue p.whole
  if p.fraction.isSome ∨ p.exponent.isSome then p.toFloat?.map float
  else if p.negative then
    if 0 < n ∧ n ≤ 0x8000000000000000 then some (int (-n)) else p.toFloat?.map float
  else if n < 0x10000000000000000 then some (int n)
  else p.toFloat?.map float

/-- The number that a text writes. -/
def ofChars? (cs : List Char) : Option JsonNumber := (parts? cs).bind ofParts?

end FacetSearch.JsonNumber
