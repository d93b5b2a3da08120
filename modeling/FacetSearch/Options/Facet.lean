import FacetSearch.Json.Basic
import FacetSearch.Text.CommaList

/-!
# Facets

The value lists that callers give for one facet. They arrive as loosely typed JSON, and what
cannot be understood constrains nothing.
-/

namespace FacetSearch

namespace Json

/-- The text of a string, a number or a truth value. -/
def scalarText? : Json → Option String
  | string s => some s
  | number n => some n.text
  | bool b => some (if b then "true" else "false")
  | _ => none

/-- The text of a scalar, or of the scalars of an array joined with commas. -/
def valueText? : Json → Option String
  | array items => some (",".intercalate (items.filterMap scalarText?))
  | v => v.scalarText?

/-- The list that a value gives, empty if it gives none. -/
def valueList (v : Option Json) : List String :=
  match v.bind valueText? with
  | some s => Text.splitList s
  | none => []

end Json

/-- The list under `key` of one section of the options. -/
def sectionList (part : Option Json) (key : String) : List String :=
  Json.valueList (part.bind (Json.member? key))

/-- The values wanted and the values not wanted of one facet. -/
structure ValueFacet where
  wanted : List String := []
  unwanted : List String := []
deriving DecidableEq, Repr

namespace ValueFacet

def ofSection (part : Option Json) : ValueFacet where
  wanted := sectionList part "in"
  unwanted := sectionList part "not"

def isEmpty (f : ValueFacet) : Bool := f.wanted.isEmpty && f.unwanted.isEmpty

end ValueFacet

/-- The terms that field names of a dataset are to contain: one of `anyOf` in some field,
each of `allOf` in some field, none of `noneOf` in any field. -/
structure FieldFacet where
  anyOf : List String := []
  allOf : List String := []
  noneOf : List String := []
deriving DecidableEq, Repr

namespace FieldFacet

def ofSection (part : Option Json) : FieldFacet where
  anyOf := sectionList part "any"
  allOf := sectionList part "all"
  noneOf := sectionList part "not"

def isEmpty (f : FieldFacet) : Bool := f.anyOf.isEmpty && f.allOf.isEmpty && f.noneOf.isEmpty

end FieldFacet

end FacetSearch
