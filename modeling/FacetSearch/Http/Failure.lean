import FacetSearch.Database.Fault
import FacetSearch.Http.Message

/-!
# Responses to failed requests

The response tells nothing but the status.
-/

namespace FacetSearch

namespace Failure

/-- A pool without a free connection makes the service unavailable; anything else is an
error of the server. -/
def status : Failure → Nat
  | database (.pool .timedOut) => 503
  | _ => 500

/-- The name of a status. -/
def reason (status : Nat) : String :=
  if status = 503 then "Service Unavailable" else "Internal Server Error"

def response (f : Failure) : Response :=
  .json f.status (.object [("status", .string "error"), ("code", .int f.status),
    ("message", .string (reason f.status))])

end Failure

end FacetSearch
