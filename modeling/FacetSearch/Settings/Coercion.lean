import FacetSearch.Json.Record
import FacetSearch.Text.Integer
import FacetSearch.Text.LowerCase

/-!
# Coercions

How a value of a settings tree is taken for a setting of a given type. A JSON document is
read strictly. Layered settings are read leniently, because the environment knows only text:
numbers and truth values are taken for text and text for them, and fractions are rounded. What
does not fit the width of a setting is refused in both ways.
-/

namespace FacetSearch

/-- The ways to read the types of settings. -/
structure Coercion where
  text? : Json → Option String
  flag? : Json → Option Bool
  /-- An unsigned integer of so many bits. -/
  unsigned? : Nat → Json → Option Nat
  /-- A signed integer of so many bits. -/
  signed? : Nat → Json → Option Int
  /-- A record with these fields, all of which must be there. -/
  record? : List String → Json → Option Record
  /-- A record with these fields, all of which may be missing. -/
  group? : List String → Json → Option Record

namespace Coercion

def fitsUnsigned (bits n : Nat) : Bool := n < Nat.pow 2 bits

def fitsSigned (bits : Nat) (n : Int) : Bool :=
  let half : Int := Nat.pow 2 (bits - 1)
  n < half && -half ≤ n

/-- Every value has the type of its setting and is in range. -/
def strict : Coercion where
  text? := Json.text?
  flag? := Json.flag?
  unsigned? bits v := (Json.intIn? 0 (Nat.pow 2 bits - 1 : Nat) v).map Int.toNat
  signed? bits :=
    let half : Int := Nat.pow 2 (bits - 1)
    Json.intIn? (-half) (half - 1)
  record? := Record.ofJson?
  group? := Record.ofPartialJson?

/-- The truth value that a text stands for in any case. -/
def truthText? (s : String) : Option Bool :=
  let t := Text.lowerCase s
  if t ∈ ["true", "on", "yes"] then some true
  else if t ∈ ["false", "off", "no"] then some false
  else none

def lenientText? : Json → Option String := fun v =>
  match v with
  | .string s => some s
  | .bool b => some (if b then "true" else "false")
  | .number (.int n) => some (toString n)
  | .number (.float x) => some (DecimalLayout.plain.float x)
  | _ => none

def lenientFlag? : Json → Option Bool := fun v =>
  match v with
  | .bool b => some b
  | .number (.int n) => some (n != 0)
  | .number (.float x) => some (x != 0)
  | .string s => if s = "1" then some true else if s = "0" then some false else truthText? s
  | _ => none

def bit (b : Bool) : Int := if b then 1 else 0

/-- A signed 64-bit integer; fractions are rounded and what is out of range is cut off. -/
def lenientInt? : Json → Option Int := fun v =>
  match v with
  | .number (.int n) => some n
  | .number (.float x) => some x.round.toInt64.toInt
  | .bool b => some (bit b)
  | .string s =>
    match truthText? s with
    | some b => some (bit b)
    | none => Text.int64? s
  | _ => none

/-- An unsigned 64-bit integer, likewise. -/
def lenientNat? : Json → Option Nat := fun v =>
  match v with
  | .number (.int n) => if 0 ≤ n then some n.toNat else none
  | .number (.float x) => some x.round.toUInt64.toNat
  | .bool b => some (bit b).toNat
  | .string s =>
    match truthText? s with
    | some b => some (bit b).toNat
    | none => Text.uint64? s
  | _ => none

/-- The fields that an array lists, however many there are. -/
def lenientRecord? (names : List String) : Json → Option Record := fun v =>
  match v with
  | .object members => some members
  | .array items => some (names.zip items)
  | _ => none

/-- Values of other types are converted. -/
def lenient : Coercion where
  text? := lenientText?
  flag? := lenientFlag?
  unsigned? bits v := (lenientNat? v).filter (fitsUnsigned bits)
  signed? bits v := (lenientInt? v).filter (fitsSigned bits)
  record? names v := (lenientRecord? names v).filter fun r =>
    names.all fun name => (r.lookup name).isSome
  group? := lenientRecord?

end Coercion

end FacetSearch
