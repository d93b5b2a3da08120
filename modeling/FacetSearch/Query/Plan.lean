import FacetSearch.Query.Basic
import FacetSearch.Query.Clause
import FacetSearch.Query.Ranking

/-!
# Plans

How a search is carried out. Facets are one query, and so is free text alone. With both,
the facets first narrow the datasets down to candidates, and the free text is then looked
for among these.
-/

namespace FacetSearch

/-- The second step of a narrowed search, which waits for its candidates. -/
structure FollowUp where
  text : String
  order : List OrderKey
  window : PageWindow

/-- The query for the free text among the candidates. -/
def FollowUp.query (f : FollowUp) (candidates : List Int) : Query :=
  ((((Query.datasets.filter (some (.idIn "d.id" candidates))).filter
    (some (Clause.comments f.text))).orderBy f.order).page f.window).countBy .twoStage

inductive DatasetPlan where
  | structured (query : Query)
  | freeText (query : Query)
  | narrowed (candidates : Query) (followUp : FollowUp)

namespace DatasetFilter

/-- The query for everything but the free text, neither ordered nor paged. -/
def structuredQuery (f : DatasetFilter) : Query :=
  (((((Query.datasets.filter (f.scope.predicate? "d.parent_name" .exact)).filter
    (f.table.predicate? "d.name" .substring)).filter
    (Clause.fields? f.fields.anyOf false)).withAllFields f.fields.allOf).filter
    (Clause.fields? f.fields.noneOf true)).filter (Clause.sources? f.sources)

/-- The query for free text and nothing else. -/
def freeTextQuery (text : String) (window : PageWindow) : Query :=
  ((Query.datasets.filter (some (Clause.comments text))).orderBy Ranking.freeTextOrder).page
    window

/-- The plan of a search. -/
def plan (f : DatasetFilter) (window : PageWindow) (ranking : Ranking) : DatasetPlan :=
  let order := ranking.datasetOrder f.table.wanted
  match f.comments with
  | none => .structured ((f.structuredQuery.orderBy order).page window)
  | some text =>
    if f.isStructured then .narrowed f.structuredQuery ⟨text, order, window⟩
    else .freeText (freeTextQuery text window)

end DatasetFilter

namespace FlowFilter

def baseQuery (f : FlowFilter) : Query := if f.searchesJobs then .jobs else .flows

def order (f : FlowFilter) : List OrderKey :=
  Order.columns (["a.app_code", "f.app_id", "f.flow_id"] ++
    if f.searchesJobs then ["j.job_id"] else [])

/-- The query for flows or jobs. Jobs are joined only when they are asked for. -/
def query (f : FlowFilter) (window : PageWindow) : Query :=
  ((((f.baseQuery.filter (f.appCode.predicate? "a.app_code" .exact)).filter
    (f.flow.predicate? "f.flow_name" .substring)).filter
    (f.job.predicate? "j.job_name" .substring)).orderBy f.order).page window

end FlowFilter

end FacetSearch
