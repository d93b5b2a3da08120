import FacetSearch.Json.Record

/-!
# Datasets

The datasets of the catalog as search results.
-/

namespace FacetSearch

structure Dataset where
  id : Int
  name : String
  source : Option String
  urn : String
  schema : Option String
deriving DecidableEq, Repr

namespace Dataset

def toJson (d : Dataset) : Json :=
  .object [("id", .int d.id), ("name", .string d.name), ("source", .ofOption .string d.source),
    ("urn", .string d.urn), ("schema", .ofOption .string d.schema)]

def ofJson? (v : Json) : Option Dataset := do
  let r ← Record.ofJson? ["id", "name", "source", "urn", "schema"] v
  return {
    id := ← r.required? "id" Json.int64?
    name := ← r.required? "name" Json.text?
    source := ← r.nullable? "source" Json.text?
    urn := ← r.required? "urn" Json.text?
    schema := ← r.nullable? "schema" Json.text? }

end Dataset

end FacetSearch
