import FacetSearch.Options.Facet

/-!
# Filters

The search options of the two domains in normal form. Options that are not a JSON object
give no filter at all.
-/

namespace FacetSearch

/-- What a dataset search asks for. -/
structure DatasetFilter where
  scope : ValueFacet := {}
  table : ValueFacet := {}
  fields : FieldFacet := {}
  sources : List String := []
  /-- Free text looked for in the comments on a dataset and its fields. -/
  comments : Option String := none
deriving DecidableEq, Repr

namespace DatasetFilter

/-- Trimmed free text, if it is not blank. -/
def freeText? (v : Option Json) : Option String :=
  ((v.bind Json.valueText?).map Text.trim).filter (· ≠ "")

/-- The filter with these members of the options. -/
def ofMembers (options : Json) : DatasetFilter where
  scope := .ofSection (options.member? "scope")
  table := .ofSection (options.member? "table")
  fields := .ofSection (options.member? "fields")
  sources := Json.valueList (options.member? "sources")
  comments := freeText? (options.member? "comments")

def ofOptions? : Json → Option DatasetFilter
  | .object members => some (ofMembers (.object members))
  | _ => none

/-- Whether something other than free text constrains the result. -/
def isStructured (f : DatasetFilter) : Bool :=
  !f.scope.isEmpty || !f.table.isEmpty || !f.fields.isEmpty || !f.sources.isEmpty

end DatasetFilter

/-- What a search for flows and jobs asks for. -/
structure FlowFilter where
  appCode : ValueFacet := {}
  flow : ValueFacet := {}
  job : ValueFacet := {}
deriving DecidableEq, Repr

namespace FlowFilter

/-- The filter with these members of the options. -/
def ofMembers (options : Json) : FlowFilter where
  appCode := .ofSection (options.member? "appcode")
  flow := .ofSection (options.member? "flow")
  job := .ofSection (options.member? "job")

def ofOptions? : Json → Option FlowFilter
  | .object members => some (ofMembers (.object members))
  | _ => none

/-- A job facet makes the search one for jobs rather than flows. -/
def searchesJobs (f : FlowFilter) : Bool := !f.job.isEmpty

end FlowFilter

end FacetSearch
