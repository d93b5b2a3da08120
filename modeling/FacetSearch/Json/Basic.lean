import FacetSearch.Decimal.Layout

/-!
# JSON values

JSON values whose numbers remember whether they were written as an integer.
-/

namespace FacetSearch

/-- A JSON number: an integer that fits 64 bits, signed or unsigned, or a floating-point
number. -/
inductive JsonNumber where
  | int (value : Int)
  | float (value : Float)
deriving Inhabited

/-- A JSON value. The members of an object have distinct keys. -/
inductive Json where
  | null
  | bool (value : Bool)
  | number (value : JsonNumber)
  | string (text : String)
  | array (items : List Json)
  | object (members : List (String × Json))
deriving Inhabited

namespace JsonNumber

/-- Floating-point numbers are written with a point in place from `1e-5` to below `1e16`,
whole ones ending in `.0`. -/
def floatLayout : DecimalLayout := ⟨some (-5, 16), true⟩

def text : JsonNumber → String
  | int n => toString n
  | float x => floatLayout.float x

end JsonNumber

namespace Json

/-- The value under a key of an object. -/
def member? (key : String) : Json → Option Json
  | object members => members.lookup key
  | _ => none

/-- The members with the value of `key` set to `value`. -/
def setMember (key : String) (value : Json) : List (String × Json) → List (String × Json)
  | [] => [(key, value)]
  | (k, v) :: rest => if k = key then (key, value) :: rest else (k, v) :: setMember key value rest

def int (n : Int) : Json := number (.int n)

def ofOption (f : α → Json) : Option α → Json
  | none => null
  | some a => f a

def strings (ss : List String) : Json := array (ss.map string)

end Json

end FacetSearch
