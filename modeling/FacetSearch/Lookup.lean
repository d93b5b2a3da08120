import FacetSearch.Database.Basic
import FacetSearch.Pattern.Literal
import FacetSearch.Text.CommaList

/-!
# Lookups

The lists of values that callers choose from when they fill in a search.
-/

namespace FacetSearch

inductive Lookup where
  /-- The sources of datasets, the most common first. -/
  | sources
  | scopes
  /-- The names of datasets, in the scopes of a comma-delimited list if it has any. -/
  | tables (among : Option String)
  /-- The names of fields, of the datasets whose names match one of the regular expressions
  in a comma-delimited list if it has any. -/
  | fields (among : Option String)
  | appCodes
  /-- The names of flows, of the applications in a comma-delimited list if it has any. -/
  | flowNames (among : Option String)
  | jobNames
deriving DecidableEq, Repr

namespace Lookup

/-- SQL on lines of its own. -/
def indented (lines : List String) : String :=
  "\n" ++ String.join (lines.map fun l => "            " ++ l ++ "\n") ++ "        "

def plainList (column relation : String) : String :=
  "SELECT DISTINCT " ++ column ++ " FROM " ++ relation ++ " ORDER BY " ++ column

def sourcesSql : String := indented ["SELECT source", "FROM dict_dataset",
  "WHERE source IS NOT NULL", "GROUP BY source", "ORDER BY COUNT(*) DESC, source"]

def scopesSql : String := indented ["SELECT DISTINCT parent_name", "FROM dict_dataset",
  "WHERE parent_name IS NOT NULL", "ORDER BY parent_name"]

def tablesInScopesSql : String := indented ["SELECT DISTINCT name", "FROM dict_dataset",
  "WHERE parent_name = ANY($1::text[])", "ORDER BY name"]

def fieldsOfTablesSql : String := indented ["SELECT DISTINCT f.field_name",
  "FROM dict_field_detail f", "JOIN dict_dataset d ON d.id = f.dataset_id",
  "WHERE d.name ~* ANY($1::text[])", "ORDER BY f.field_name"]

def flowsOfAppsSql : String := indented ["SELECT DISTINCT f.flow_name", "FROM flow f",
  "JOIN cfg_application a ON a.app_id = f.app_id", "WHERE a.app_code = ANY($1::text[])",
  "ORDER BY f.flow_name"]

def jobNamesSql : String := indented ["SELECT DISTINCT job_name", "FROM flow_job",
  "WHERE job_name IS NOT NULL AND job_name <> ''", "ORDER BY job_name"]

/-- The items of an argument; a missing one has none. -/
def items (argument : Option String) : List String :=
  match argument with
  | some s => Text.splitList s
  | none => []

/-- The statement restricted to items, or the other one if there are none. -/
def restricted (items : List String) (sql unrestricted : String) : Statement :=
  if items.isEmpty then ⟨unrestricted, []⟩ else ⟨sql, [.textArray items]⟩

/-- The statement for field names with these patterns. -/
def fieldsStatement (patterns : List String) : Statement :=
  restricted patterns fieldsOfTablesSql (plainList "field_name" "dict_field_detail")

/-- A term as the pattern to match: the term itself if that is a regular expression, else the
one that matches it literally. -/
def pattern (valid : String → Bool) (term : String) : String :=
  if valid term then term else Pattern.literal term

/-- The code with which the server refuses a regular expression. -/
def invalidPatternCode : String := "2201B"

/-- The values that a statement lists. -/
def list (db : Database) (s : Statement) : Session (List String) := do
  db.connect
  db.fetchAll Row.text? s

/-- The field names for a list of terms. If the server does not accept the patterns after
all, every term is matched literally. -/
def listFields (valid : String → Bool) (db : Database) (terms : List String) :
    Session (List String) :=
  let first := list db (fieldsStatement (terms.map (pattern valid)))
  if terms.isEmpty then first
  else tryCatch first fun fault =>
    match fault with
    | .server code _ =>
      if code = invalidPatternCode then list db (fieldsStatement (terms.map Pattern.literal))
      else throw fault
    | _ => throw fault

/-- The values of a lookup, where `valid` tells regular expressions from other texts. -/
def run (valid : String → Bool) (db : Database) : Lookup → Session (List String)
  | sources => list db ⟨sourcesSql, []⟩
  | scopes => list db ⟨scopesSql, []⟩
  | tables among =>
    list db (restricted (items among) tablesInScopesSql (plainList "name" "dict_dataset"))
  | fields among => listFields valid db (items among)
  | appCodes => list db ⟨plainList "app_code" "cfg_application", []⟩
  | flowNames among =>
    list db (restricted (items among) flowsOfAppsSql (plainList "flow_name" "flow"))
  | jobNames => list db ⟨jobNamesSql, []⟩

end Lookup

end FacetSearch
