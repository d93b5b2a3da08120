import FacetSearch.Http.Message

/-!
# Cross-origin requests

Which origins may read responses, and the answers to preflight requests.
-/

namespace FacetSearch

/-- The origins that are allowed, each a legal header value. -/
structure Cors where
  origins : List Bytes
deriving DecidableEq, Repr

namespace Cors

def wildcard : Bytes := .ofText "*"

/-- The legal ones among configured origins. A wildcard is no origin: with one in the list
there is no service. -/
def ofOrigins? (origins : List String) : Option Cors :=
  let legal := (origins.map Bytes.ofText).filter Headers.isLegalValue
  if wildcard ∈ legal then none else some ⟨legal⟩

def originHeader : String := "access-control-allow-origin"

/-- The response with the origin of the request, if that is allowed. -/
def allowOrigin (c : Cors) (r : Request) (response : Response) : Response :=
  match r.headers.first? "origin" with
  | some origin =>
    if origin ∈ c.origins then response.withHeader originHeader origin else response
  | none => response

/-- The answer to an OPTIONS request, where `allow` holds the methods of the path if it has
any. -/
def preflight (c : Cors) (allow : Option String) (r : Request) : Response :=
  let response := Response.empty 200
  let response := match allow with
    | some methods => response.withHeader "allow" (.ofText methods)
    | none => response
  if c.origins.isEmpty then response
  else
    ((c.allowOrigin r response).withHeader "access-control-allow-methods" (.ofText "*")).withHeader
      "access-control-allow-headers" (.ofText "*")

end Cors

end FacetSearch
