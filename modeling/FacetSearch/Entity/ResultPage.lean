import FacetSearch.Json.Record

/-!
# Result pages

One page of a result, with the exact number of matches in the whole result.
-/

namespace FacetSearch

structure ResultPage (α : Type) where
  count : Int
  page : Int
  itemsPerPage : Int
  totalPages : Int
  /-- Given for flows and jobs only. -/
  isFlowJob : Option Bool
  data : List α
deriving DecidableEq, Repr

namespace ResultPage

/-- The page of a window when there are `count` matches in all. -/
def ofWindow (count : Int) (w : PageWindow) (data : List α) : ResultPage α :=
  { count := max count 0
    page := w.page
    itemsPerPage := w.size
    totalPages := FacetSearch.totalPages (max count 0) w.size
    isFlowJob := none
    data }

/-- The page of a window on nothing. -/
def empty (w : PageWindow) : ResultPage α := ofWindow 0 w []

/-- The page marked as one of flows and jobs. -/
def flowJobs (p : ResultPage α) : ResultPage α := { p with isFlowJob := some true }

def toJson (item : α → Json) (p : ResultPage α) : Json :=
  .object ([("count", .int p.count), ("page", .int p.page), ("itemsPerPage", .int p.itemsPerPage),
    ("totalPages", .int p.totalPages)] ++
    (match p.isFlowJob with
      | none => []
      | some b => [("isFlowJob", .bool b)]) ++
    [("data", .array (p.data.map item))])

def ofJson? (item? : Json → Option α) (v : Json) : Option (ResultPage α) := do
  let r ← Record.ofJson? ["count", "page", "itemsPerPage", "totalPages", "isFlowJob", "data"] v
  return {
    count := ← r.required? "count" Json.int64?
    page := ← r.required? "page" Json.int64?
    itemsPerPage := ← r.required? "itemsPerPage" Json.int64?
    totalPages := ← r.required? "totalPages" Json.int64?
    isFlowJob := ← r.nullable? "isFlowJob" Json.flag?
    data := ← r.required? "data" (Json.list? item?) }

end ResultPage

end FacetSearch
