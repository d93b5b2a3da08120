import FacetSearch.Database.Basic
import FacetSearch.Entity.Dataset
import FacetSearch.Entity.FlowJob
import FacetSearch.Entity.ResultPage
import FacetSearch.Metrics.Registry
import FacetSearch.Query.Plan
import FacetSearch.Settings.Basic

/-!
# Searches

A search reads its page and the number of all matches in one transaction over a single
snapshot, and records what it did.
-/

namespace FacetSearch

namespace Dataset

def ofRow? : Row → Option Dataset
  | [id, name, source, urn, schema] => do
    return {
      id := ← id.bigint?
      name := ← name.text?
      source := ← source.nullable? Cell.text?
      urn := ← urn.text?
      schema := ← schema.nullable? Cell.text? }
  | _ => none

end Dataset

namespace FlowJobRow

def ofRow? : Row → Option FlowJobRow
  | [appCode, flowId, flowName, flowPath, flowGroup, jobId, jobName, jobPath, jobType] => do
    return {
      appCode := ← appCode.text?
      flowId := ← flowId.bigint?
      flowName := ← flowName.text?
      flowPath := ← flowPath.nullable? Cell.text?
      flowGroup := ← flowGroup.nullable? Cell.text?
      jobId := ← jobId.nullable? Cell.bigint?
      jobName := ← jobName.nullable? Cell.text?
      jobPath := ← jobPath.nullable? Cell.text?
      jobType := ← jobType.nullable? Cell.text? }
  | _ => none

end FlowJobRow

/-- What all searches have in common. -/
structure SearchEngine where
  ranking : Ranking
  pageSizes : PageSizes
  /-- Zero sets no limit. -/
  timeoutMilliseconds : Nat

namespace SearchEngine

/-- The engine for these settings. The limit is cut off at the largest unsigned 64-bit
integer. -/
def ofSettings (search : SearchSettings) (timeoutSeconds : Nat) : SearchEngine :=
  ⟨search.ranking, search.pageSizes, min (timeoutSeconds * 1000) 0xFFFFFFFFFFFFFFFF⟩

/-- Begins a transaction that reads a single snapshot. -/
def beginSnapshot (e : SearchEngine) (db : Database) : Session Unit := do
  db.connect
  db.execute .begin
  db.execute .snapshot
  if 0 < e.timeoutMilliseconds then
    db.execute (.limitTime e.timeoutMilliseconds)

/-- The rows of the window of a query, and the number of all its rows. -/
def fetchPage (db : Database) (read : Row → Option α) (q : Query) : Session (Int × List α) := do
  let data ← db.fetchAll read q.pageStatement
  let count ← db.fetchFirst Row.bigint? q.countStatement
  return (count.getD 0, data)

/-- Carries out a plan for datasets. Without candidates there is nothing to follow up. -/
def runDatasets (e : SearchEngine) (db : Database) (plan : DatasetPlan) (w : PageWindow) :
    Session (ResultPage Dataset) := do
  e.beginSnapshot db
  match plan with
  | .structured q | .freeText q =>
    let (count, data) ← fetchPage db Dataset.ofRow? q
    db.execute .commit
    return .ofWindow count w data
  | .narrowed candidates followUp =>
    let ids ← db.fetchAll Row.bigint? candidates.idsStatement
    if ids.isEmpty then
      db.execute .commit
      return .empty w
    else
      let (count, data) ← fetchPage db Dataset.ofRow? (followUp.query ids)
      db.execute .commit
      return .ofWindow count w data

/-- Carries out a search for flows or jobs. -/
def runFlows (e : SearchEngine) (db : Database) (f : FlowFilter) (w : PageWindow) :
    Session (ResultPage FlowJob) := do
  e.beginSnapshot db
  let (count, rows) ← fetchPage db FlowJobRow.ofRow? (f.query w)
  db.execute .commit
  return (ResultPage.ofWindow count w (rows.map (·.toFlowJob f.searchesJobs))).flowJobs

end SearchEngine

/-- What lasts from one request to the next: the commands sent to the database, and the
metrics. -/
structure ServiceState where
  sent : Log := []
  metrics : Registry := {}

/-- A step of the service. -/
abbrev Service := StateM ServiceState

namespace Service

/-- Runs a session. -/
def ofSession (session : Session α) : Service (Except Fault α) := fun s =>
  let (result, sent) := session.run s.sent
  (result, { s with sent })

def record (f : Registry → Registry) : Service Unit :=
  modify fun s => { s with metrics := f s.metrics }

end Service

def DatasetPlan.label : DatasetPlan → String
  | structured _ => "structured"
  | freeText _ => "fulltext"
  | narrowed _ _ => "narrowed"

namespace SearchEngine

/-- Records a search for which there was nothing to do. -/
def recordEmpty (domain : String) (seconds : Float) : Service Unit :=
  Service.record (Registry.recordSearch ⟨domain, "none"⟩ "empty" seconds)

/-- Runs the session of a search and records how it ended. -/
def observed (search : SearchLabels) (seconds : Float) (session : Session (ResultPage α)) :
    Service (Except Fault (ResultPage α)) := do
  let result ← Service.ofSession session
  match result with
  | .ok page =>
    Service.record (Registry.recordSearch search "success" seconds)
    Service.record (Registry.recordMatches search.domain page.count)
  | .error _ => Service.record (Registry.recordSearch search "error" seconds)
  return result

/-- Searches datasets, in a time measured by the caller. Options that are not an object find
nothing. -/
def searchDatasets (e : SearchEngine) (db : Database) (options : Json) (w : PageWindow)
    (seconds : Float) : Service (Except Fault (ResultPage Dataset)) :=
  match DatasetFilter.ofOptions? options with
  | none => do
    recordEmpty datasetDomain seconds
    return .ok (.empty w)
  | some f =>
    let plan := f.plan w e.ranking
    observed ⟨datasetDomain, plan.label⟩ seconds (e.runDatasets db plan w)

/-- Searches flows or jobs likewise. -/
def searchFlows (e : SearchEngine) (db : Database) (options : Json) (w : PageWindow)
    (seconds : Float) : Service (Except Fault (ResultPage FlowJob)) :=
  match FlowFilter.ofOptions? options with
  | none => do
    recordEmpty flowDomain seconds
    return .ok (ResultPage.empty w).flowJobs
  | some f =>
    observed ⟨flowDomain, if f.searchesJobs then "job" else "flow"⟩ seconds (e.runFlows db f w)

end SearchEngine

end FacetSearch
