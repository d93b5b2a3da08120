import FacetSearch.Unicode.Age
import FacetSearch.Unicode.Segmentation

/-!
# Properties of characters

The sets of characters that a pattern names by a property. Case, spaces, hyphens and
underscores in names do not count, and neither do an `is` in front and what is not ASCII.
-/

namespace FacetSearch.Pattern

open Unicode

/-- How a pattern names a property: by its value alone, or by the property and its value. -/
inductive Property where
  | alone (name : List Char)
  | valued (property value : List Char)

namespace Property

/-- The form in which names are compared. The abbreviation `isc` is not `c` with `is` in
front of it. -/
def looseName (cs : List Char) : String :=
  let counts (c : Char) : Bool := c.toNat < 128 && !(['_', '-', ' '].contains c)
  let stripped (cs : List Char) : String := String.ofList ((cs.filter counts).map Char.toLower)
  match cs with
  | 'i' :: 's' :: rest | 'i' :: 'S' :: rest | 'I' :: 's' :: rest | 'I' :: 'S' :: rest =>
    if stripped rest = "c" then "isc" else stripped rest
  | _ => stripped cs

/-- The values of a property that has more than two. -/
def values (property : String) : List NamedSet :=
  if ["gc", "generalcategory"].contains property then generalCategories
  else if ["sc", "script"].contains property then scripts
  else if ["scx", "scriptextensions"].contains property then scriptExtensions
  else if property = "age" then ages
  else if ["gcb", "graphemeclusterbreak"].contains property then graphemeBreaks
  else if ["sb", "sentencebreak"].contains property then sentenceBreaks
  else if ["wb", "wordbreak"].contains property then wordBreaks
  else []

/-- The set of characters, if there is one. A value alone may be that of a property that a
character has or lacks, of `General_Category` or of `Script`. -/
def find? : Property → Option RangeSet
  | alone name =>
    NamedSet.find? (binaryProperties ++ generalCategories ++ scripts) (looseName name)
  | valued property value => NamedSet.find? (values (looseName property)) (looseName value)

/-- What precedes the first occurrence of a separator and what follows it. -/
def splitAt? (separator : List Char) : List Char → Option (List Char × List Char)
  | [] => none
  | c :: cs =>
    if separator.isPrefixOf (c :: cs) then some ([], (c :: cs).drop separator.length)
    else (splitAt? separator cs).map fun (before, after) => (c :: before, after)

/-- The property named between braces: a property and its value are separated by `!=`, `:`
or `=`, of which the first one in this order that occurs counts. All of them mean the same. -/
def ofBraces (cs : List Char) : Property :=
  let split := (splitAt? ['!', '='] cs).or ((splitAt? [':'] cs).or (splitAt? ['='] cs))
  match split with
  | some (property, value) => valued property value
  | none => alone cs

end Property

end FacetSearch.Pattern
