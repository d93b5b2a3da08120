import FacetSearch.Paging
import FacetSearch.Sql.Order
import FacetSearch.Text.LikePattern

/-!
# Queries

A query describes what is selected, under which conditions, in which order and how much of
it. Three statements come from one query: the page, the number of all rows that fulfil the
conditions, and the identifiers of these rows.
-/

namespace FacetSearch

/-- How the number of all matches is found. -/
inductive CountStrategy where
  /-- By counting over the conditions of the page itself. -/
  | samePredicate
  /-- Likewise, where the conditions hold identifiers from an earlier query. -/
  | twoStage
deriving DecidableEq, Repr

structure Query where
  columns : String
  relation : String
  idColumn : String
  /-- Terms each of which some field of a dataset must contain. -/
  fieldTerms : List String := []
  filters : List Predicate := []
  order : List OrderKey := []
  window : Option PageWindow := none
  countStrategy : CountStrategy := .samePredicate

namespace Query

def datasets : Query where
  columns := "d.id, d.name, d.source, d.urn, d.\"schema\""
  relation := "dict_dataset d"
  idColumn := "d.id"

def flows : Query where
  columns := "a.app_code, f.flow_id, f.flow_name, f.flow_path, f.flow_group, " ++
    "NULL::bigint AS job_id, NULL::text AS job_name, NULL::text AS job_path, " ++
    "NULL::text AS job_type"
  relation := "flow f JOIN cfg_application a ON a.app_id = f.app_id"
  idColumn := "f.flow_id"

def jobs : Query where
  columns := "a.app_code, f.flow_id, f.flow_name, f.flow_path, f.flow_group, " ++
    "j.job_id, j.job_name, j.job_path, j.job_type"
  relation := "flow_job j JOIN flow f ON f.app_id = j.app_id AND f.flow_id = j.flow_id " ++
    "JOIN cfg_application a ON a.app_id = f.app_id"
  idColumn := "j.job_id"

/-- The query with one more condition, if there is one. -/
def filter (q : Query) : Option Predicate → Query
  | none => q
  | some p => { q with filters := q.filters ++ [p] }

/-- Membership in the datasets that have a field for each of the terms. -/
def allFieldsMember : Predicate :=
  .membership "d.id" [.whole "SELECT dataset_id FROM all_fields"] false

/-- The query for datasets that have a field for each of the terms. -/
def withAllFields (q : Query) (terms : List String) : Query :=
  if terms.isEmpty then q
  else { q.filter (some allFieldsMember) with fieldTerms := terms }

def orderBy (q : Query) (order : List OrderKey) : Query := { q with order }

def page (q : Query) (window : PageWindow) : Query := { q with window := some window }

def countBy (q : Query) (countStrategy : CountStrategy) : Query := { q with countStrategy }

/-- The datasets with a field for each of the terms, computed once: those whose fields match
as many different patterns as there are. -/
def withClause (q : Query) : Fragment :=
  if q.fieldTerms.isEmpty then []
  else [.sql ("WITH all_fields AS MATERIALIZED (SELECT fa.dataset_id " ++
      "FROM dict_field_detail fa JOIN unnest("),
    .value (.textArray (q.fieldTerms.map Text.likeContains)),
    .sql ("::text[]) WITH ORDINALITY AS t(pattern, ord) ON fa.field_name ILIKE t.pattern " ++
      "ESCAPE E'\\\\' GROUP BY fa.dataset_id HAVING COUNT(DISTINCT t.ord) = "),
    .value (.bigint q.fieldTerms.length), .sql ") "]

def whereClause (q : Query) : Fragment := Predicate.whereClause (Predicate.fragments q.filters)

def orderClause (q : Query) : Fragment :=
  match Order.fragment? q.order with
  | none => []
  | some f => .sql " ORDER BY " :: f

def limitClause (q : Query) : Fragment :=
  match q.window with
  | none => []
  | some w =>
    [.sql " LIMIT ", .value (.bigint w.size), .sql " OFFSET ", .value (.bigint w.offset)]

/-- The rows that fulfil the conditions, with `projection` for columns. -/
def select (q : Query) (projection : String) : Fragment :=
  q.withClause ++ .sql ("SELECT " ++ projection ++ " FROM " ++ q.relation) :: q.whereClause

/-- The rows of the window, in order. -/
def pageStatement (q : Query) : Statement :=
  (q.select q.columns ++ q.orderClause ++ q.limitClause).statement

/-- The number of rows that fulfil the conditions. -/
def countStatement (q : Query) : Statement := (q.select "COUNT(*)").statement

/-- The identifiers of the rows that fulfil the conditions. -/
def idsStatement (q : Query) : Statement := (q.select q.idColumn).statement

/-- Whether any condition is in force. -/
def hasWhere (q : Query) : Bool := !q.whereClause.isEmpty

end Query

end FacetSearch
