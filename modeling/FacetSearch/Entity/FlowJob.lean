import FacetSearch.Json.Record
import FacetSearch.Text.WhiteSpace

/-!
# Flows and jobs

A flow, or a job within a flow, as a search result with the fields that are displayed.
-/

namespace FacetSearch

/-- What a query returns for a flow or a job. A query for flows leaves the job fields out. -/
structure FlowJobRow where
  appCode : String
  flowId : Int
  flowName : String
  flowPath : Option String
  flowGroup : Option String
  jobId : Option Int
  jobName : Option String
  jobPath : Option String
  jobType : Option String
deriving DecidableEq, Repr

structure FlowJob where
  appCode : String
  flowId : Int
  flowName : String
  flowPath : Option String
  flowGroup : Option String
  jobName : Option String
  jobPath : Option String
  jobType : Option String
  displayName : String
  /-- The page on which the flow is shown. -/
  link : String
  path : String
deriving DecidableEq, Repr

namespace FlowJobRow

/-- The name of the job, or of the flow if the job has none to show. -/
def displayName (r : FlowJobRow) : String :=
  match r.jobName with
  | some name => if Text.isBlank name then r.flowName else name
  | none => r.flowName

def link (r : FlowJobRow) : String :=
  "#/flows/" ++ r.appCode ++ "/" ++ r.flowGroup.getD "" ++ "/" ++ toString r.flowId ++ "/page/1"

/-- The path below the application: that of the job in a search for jobs, else of the flow. -/
def path (r : FlowJobRow) (searchesJobs : Bool) : String :=
  r.appCode ++ "/" ++ (if searchesJobs then r.jobPath else r.flowPath).getD ""

def toFlowJob (r : FlowJobRow) (searchesJobs : Bool) : FlowJob :=
  { r with displayName := r.displayName, link := r.link, path := r.path searchesJobs }

end FlowJobRow

namespace FlowJob

def toJson (f : FlowJob) : Json :=
  .object [("appCode", .string f.appCode), ("flowId", .int f.flowId),
    ("flowName", .string f.flowName), ("flowPath", .ofOption .string f.flowPath),
    ("flowGroup", .ofOption .string f.flowGroup), ("jobName", .ofOption .string f.jobName),
    ("jobPath", .ofOption .string f.jobPath), ("jobType", .ofOption .string f.jobType),
    ("displayName", .string f.displayName), ("link", .string f.link), ("path", .string f.path)]

def ofJson? (v : Json) : Option FlowJob := do
  let r ← Record.ofJson? ["appCode", "flowId", "flowName", "flowPath", "flowGroup", "jobName",
    "jobPath", "jobType", "displayName", "link", "path"] v
  return {
    appCode := ← r.required? "appCode" Json.text?
    flowId := ← r.required? "flowId" Json.int64?
    flowName := ← r.required? "flowName" Json.text?
    flowPath := ← r.nullable? "flowPath" Json.text?
    flowGroup := ← r.nullable? "flowGroup" Json.text?
    jobName := ← r.nullable? "jobName" Json.text?
    jobPath := ← r.nullable? "jobPath" Json.text?
    jobType := ← r.nullable? "jobType" Json.text?
    displayName := ← r.required? "displayName" Json.text?
    link := ← r.required? "link" Json.text?
    path := ← r.required? "path" Json.text? }

end FlowJob

end FacetSearch
