/-!
# Faults

What can go wrong between a request and its answer.
-/

namespace FacetSearch

/-- Why the pool gives no connection. -/
inductive PoolFault where
  | timedOut
  | closed
  | unreachable
deriving DecidableEq, Repr

/-- Why a session with the database fails. -/
inductive Fault where
  | pool (fault : PoolFault)
  /-- The server refused a statement. -/
  | server (code message : String)
  /-- A row does not hold what the program needs. -/
  | undecodable
  | workerCrashed
  | protocol (detail : String)
  | columnNotFound (name : String)
  | rowNotFound
deriving DecidableEq, Repr

namespace Fault

def message : Fault → String
  | pool .timedOut => "pool timed out while waiting for an open connection"
  | pool .closed => "attempted to acquire a connection on a closed pool"
  | pool .unreachable => "error communicating with database"
  | server _ message => "error returned from database: " ++ message
  | undecodable => "error occurred while decoding"
  | workerCrashed => "attempted to communicate with a crashed background worker"
  | protocol detail => "encountered unexpected or invalid data: " ++ detail
  | columnNotFound name => "no column found for name: " ++ name
  | rowNotFound => "no rows returned by a query that expected to return at least one row"

end Fault

/-- Why a request fails. -/
inductive Failure where
  | database (fault : Fault)
  | internal (detail : String)
deriving DecidableEq, Repr

namespace Failure

def message : Failure → String
  | database fault => "Database error: " ++ fault.message
  | internal detail => "Internal server error: " ++ detail

end Failure

end FacetSearch
