/-!
# Endpoints

The paths that the service answers, and the methods it takes on them.
-/

namespace FacetSearch

inductive Endpoint where
  | health
  | metrics
  /-- Searches with the options in the body. -/
  | postDatasets
  | postFlows
  /-- Searches with the options in the query. -/
  | getDatasets
  | getFlows
  | sources
  | scopes
  | tables
  | fields
  | appCodes
  | flowNames
  | jobNames
deriving DecidableEq, Repr

namespace Endpoint

def searchRoot : String := "/api/v1/advsearch"

def paths : List (String × Endpoint) :=
  [("/health", health), ("/metrics", metrics), (searchRoot ++ "/datasets", postDatasets),
    (searchRoot ++ "/flows", postFlows), (searchRoot ++ "/search", getDatasets),
    (searchRoot ++ "/search/flows", getFlows), (searchRoot ++ "/sources", sources),
    (searchRoot ++ "/scopes", scopes), (searchRoot ++ "/tables", tables),
    (searchRoot ++ "/fields", fields), (searchRoot ++ "/appcodes", appCodes),
    (searchRoot ++ "/flowNames", flowNames), (searchRoot ++ "/jobNames", jobNames)]

/-- The endpoint at a path, which has to be spelled exactly. -/
def ofPath? (path : String) : Option Endpoint := paths.lookup path

def takesPost : Endpoint → Bool
  | postDatasets | postFlows => true
  | _ => false

/-- The methods of an endpoint, as they are announced. -/
def allow (e : Endpoint) : String := if e.takesPost then "POST" else "GET,HEAD"

def accepts (e : Endpoint) (method : String) : Bool :=
  if e.takesPost then method = "POST" else method = "GET" || method = "HEAD"

end Endpoint

end FacetSearch
