import FacetSearch.Http.Cors
import FacetSearch.Http.Endpoint
import FacetSearch.Http.Failure
import FacetSearch.Http.Form
import FacetSearch.Http.RequestId
import FacetSearch.Json.Reader
import FacetSearch.Lookup
import FacetSearch.Metrics.PathLabel
import FacetSearch.Search
import FacetSearch.Text.Integer

/-!
# The application

The answers of the service to requests.
-/

namespace FacetSearch

structure Application where
  engine : SearchEngine
  db : Database
  cors : Cors
  /-- In bytes. -/
  maxBodySize : Nat
  serviceName : String
  /-- Tells regular expressions from other texts. -/
  validPattern : String → Bool

/-- What a request takes from its surroundings: a fresh identifier, and the times that its
search and the request as a whole turn out to last. -/
structure Moment where
  requestId : String
  searchSeconds : Float
  requestSeconds : Float

/-- Answers requests. -/
abbrev Handler := Request → Service Response

namespace Application

/-- The application for these settings, unless its origins contain a wildcard. -/
def build? (s : Settings) (db : Database) (validPattern : String → Bool) : Option Application :=
  (Cors.ofOrigins? s.server.corsOrigins).map fun cors =>
    { engine := .ofSettings s.search s.database.statementTimeoutSeconds
      db
      cors
      maxBodySize := s.server.maxBodySize
      serviceName := s.logging.serviceName
      validPattern }

/-! ## Parameters -/

/-- An integer parameter that may be given once; the outer `none` for one given more often or
not an integer. -/
def integer? (parameters : List (String × String)) (name : String) : Option (Option Int) :=
  match Form.single? parameters name with
  | none => none
  | some none => some none
  | some (some value) => (Text.int64? value).map some

/-- The page that is asked for. -/
def pageRequest? (parameters : List (String × String)) : Option PageRequest := do
  return { page := ← integer? parameters "page", size := ← integer? parameters "size" }

def parameters (r : Request) : List (String × String) :=
  Form.parse (.ofText (r.uri.query.getD ""))

/-- The response to parameters that cannot be read. -/
def badParameters : Response := .text 400 "Failed to deserialize query string"

/-- The response to a body over the limit. -/
def bodyTooLarge : Response := .text 413 "length limit exceeded"

/-- Search options as bytes of JSON; anything else stands for no options. -/
def options (b : Bytes) : Json := ((Bytes.text? b).bind Json.parse?).getD .null

/-! ## Endpoints -/

/-- The response to the result of a session. -/
def result (encode : α → Json) : Except Fault α → Response
  | .ok a => .json 200 (encode a)
  | .error fault => (Failure.database fault).response

def searchDatasets (app : Application) (m : Moment) (options : Json) (page : PageRequest) :
    Service Response := do
  let found ← app.engine.searchDatasets app.db options (page.window app.engine.pageSizes)
    m.searchSeconds
  return result (·.toJson Dataset.toJson) found

def searchFlows (app : Application) (m : Moment) (options : Json) (page : PageRequest) :
    Service Response := do
  let found ← app.engine.searchFlows app.db options (page.window app.engine.pageSizes)
    m.searchSeconds
  return result (·.toJson FlowJob.toJson) found

/-- A search with its options in the body. -/
def searchByBody (app : Application) (search : Json → PageRequest → Service Response) : Handler :=
  fun r =>
    match pageRequest? (parameters r) with
    | none => return badParameters
    | some page =>
      if app.maxBodySize < r.body.length then return bodyTooLarge
      else search (options r.body) page

/-- A search with its options in the query. -/
def searchByQuery (search : Json → PageRequest → Service Response) : Handler := fun r =>
  match pageRequest? (parameters r), Form.single? (parameters r) "searchOpts" with
  | some page, some text => search (options (.ofText (text.getD ""))) page
  | _, _ => return badParameters

def lookup (app : Application) (l : Lookup) : Service Response := do
  let found ← Service.ofSession (l.run app.validPattern app.db)
  return result Json.strings found

/-- A lookup with an argument that may be given once. -/
def lookupAmong (app : Application) (name : String) (l : Option String → Lookup) : Handler :=
  fun r =>
    match Form.single? (parameters r) name with
    | none => return badParameters
    | some argument => app.lookup (l argument)

/-- Whether the database answers. -/
def health (app : Application) : Service Response := do
  let answer ← Service.ofSession do
    app.db.connect
    app.db.execute .ping
  let report (status : Nat) (overall database : String) : Response :=
    .json status (.object [("status", .string overall), ("service", .string app.serviceName),
      ("database", .string database)])
  match answer with
  | .ok _ => return report 200 "ok" "ok"
  | .error _ => return report 503 "degraded" "unavailable"

/-- All metrics as they stand. -/
def metrics : Service Response := do
  let s ← get
  return ⟨200, [(Response.contentType, .ofText "text/plain; version=0.0.4")],
    .samples s.metrics.lines⟩

def run (app : Application) (m : Moment) : Endpoint → Handler
  | .health => fun _ => app.health
  | .metrics => fun _ => metrics
  | .postDatasets => app.searchByBody (app.searchDatasets m)
  | .postFlows => app.searchByBody (app.searchFlows m)
  | .getDatasets => searchByQuery (app.searchDatasets m)
  | .getFlows => searchByQuery (app.searchFlows m)
  | .sources => fun _ => app.lookup .sources
  | .scopes => fun _ => app.lookup .scopes
  | .tables => app.lookupAmong "scopes" .tables
  | .fields => app.lookupAmong "tables" .fields
  | .appCodes => fun _ => app.lookup .appCodes
  | .flowNames => app.lookupAmong "apps" .flowNames
  | .jobNames => fun _ => app.lookup .jobNames

/-! ## The whole of a request -/

/-- Finds the endpoint of a request and runs it. -/
def route (app : Application) (m : Moment) : Handler := fun r =>
  match Endpoint.ofPath? r.uri.path with
  | none => return .empty 404
  | some e =>
    if e.accepts r.method then app.run m e r
    else return (Response.empty 405).withHeader "allow" (.ofText e.allow)

/-- Answers with an identifier. -/
def identified (m : Moment) (handler : Handler) : Handler := fun r => do
  return RequestId.tag m.requestId r (← handler r)

/-- Counts a request, while it is answered and when it has been. -/
def counted (m : Moment) (handler : Handler) : Handler := fun r => do
  let labels : RouteLabels := ⟨r.method, pathLabel r.uri.path⟩
  Service.record (Registry.enter labels)
  let response ← handler r
  Service.record (Registry.leave labels (toString response.status) m.requestSeconds)
  return response

/-- A response to HEAD has no body. -/
def bodyFor (method : String) (response : Response) : Response :=
  if method = "HEAD" then response.withoutBody else response

/-- The answer to a request. OPTIONS is answered at once, everything else by the endpoint. -/
def respond (app : Application) (m : Moment) : Handler := fun r =>
  if r.method = "OPTIONS" then
    return app.cors.preflight ((Endpoint.ofPath? r.uri.path).map Endpoint.allow) r
  else do
    let response ← counted m (identified m (app.route m)) r
    return bodyFor r.method (app.cors.allowOrigin r response)

end Application

end FacetSearch
