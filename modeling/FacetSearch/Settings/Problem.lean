import FacetSearch.Settings.Basic
import FacetSearch.Text.WhiteSpace

/-!
# Problems with settings

Settings under which the service refuses to start.
-/

namespace FacetSearch

/-- The first thing that is wrong with settings. -/
inductive SettingsProblem where
  | noPort
  | noDatabaseUrl
  | emptyPool
  | poolBounds (min max : Nat)
  | pageSize
  | pageSizeBounds (default max : Int)
  | blankNamespace
  | fileRotation (given : String)
deriving DecidableEq, Repr

namespace SettingsProblem

def message : SettingsProblem → String
  | noPort => "server.port must be greater than 0"
  | noDatabaseUrl => "database.url must not be empty"
  | emptyPool => "database.pool_max_size must be greater than 0"
  | poolBounds min max =>
    "database.pool_min_size (" ++ toString min ++ ") exceeds database.pool_max_size (" ++
      toString max ++ ")"
  | pageSize => "search page sizes must be greater than 0"
  | pageSizeBounds default max =>
    "search.default_page_size (" ++ toString default ++ ") exceeds search.max_page_size (" ++
      toString max ++ ")"
  | blankNamespace => "search.namespace_priority prefixes must not be empty"
  | fileRotation given =>
    "logging.file_rotation must be one of daily, hourly, minutely, never (got " ++ given ++ ")"

end SettingsProblem

namespace Settings

def rotations : List String := ["daily", "hourly", "minutely", "never"]

/-- The first problem with the settings, if there is one. -/
def problem? (s : Settings) : Option SettingsProblem :=
  if s.server.port = 0 then some .noPort
  else if Text.isBlank s.database.url then some .noDatabaseUrl
  else if s.database.poolMaxSize = 0 then some .emptyPool
  else if s.database.poolMaxSize < s.database.poolMinSize then
    some (.poolBounds s.database.poolMinSize s.database.poolMaxSize)
  else if s.search.defaultPageSize ≤ 0 ∨ s.search.maxPageSize ≤ 0 then some .pageSize
  else if s.search.maxPageSize < s.search.defaultPageSize then
    some (.pageSizeBounds s.search.defaultPageSize s.search.maxPageSize)
  else if s.search.namespaces.any fun n => Text.isBlank n.stem then some .blankNamespace
  else if s.logging.fileRotation ∈ rotations then none
  else some (.fileRotation s.logging.fileRotation)

end Settings

end FacetSearch
