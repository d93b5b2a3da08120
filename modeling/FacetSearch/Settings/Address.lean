import FacetSearch.Settings.Basic
import FacetSearch.Settings.IpAddress

/-!
# The address to listen on
-/

namespace FacetSearch

/-- The host is no IP address. -/
structure BadHost where
  host : String
deriving DecidableEq, Repr

def BadHost.message (e : BadHost) : String :=
  "Invalid server.host '" ++ e.host ++ "': invalid IP address syntax"

/-- The address that the server listens on. -/
def ServerSettings.address (s : ServerSettings) : Except BadHost String :=
  match IpAddress.parse? s.host with
  | some ip => .ok (ip.withPort s.port)
  | none => .error ⟨s.host⟩

end FacetSearch
