import FacetSearch.Sql.Fragment

/-!
# Predicates

Conditions on a row, and the SQL for them. Column names and the heads of sub-selects are
written into the text; everything else is a bound value. A predicate without values, or with
empty parts only, constrains nothing and has no SQL.
-/

namespace FacetSearch

mutual

/-- A condition on a row. -/
inductive Predicate where
  /-- The column is like one of the patterns, or, if negated, like none of them. Case does not
  count. -/
  | like (column : String) (patterns : List String) (negated : Bool)
  /-- The column is one of the values, or, if negated, none of them. -/
  | anyOf (column : String) (values : List String) (negated : Bool)
  /-- The column is one of the numbers; no number fits an empty list. -/
  | idIn (column : String) (ids : List Int)
  /-- The column is, or is not, in the union of the sub-selects. -/
  | membership (column : String) (selects : List SubSelect) (negated : Bool)
  /-- A word of the column begins with one of the terms; no word does so if there are none. -/
  | prefixMatch (column : String) (terms : List String)
  | and (parts : List Predicate)
  | or (parts : List Predicate)

/-- A sub-select of one column: all rows of its relation, or those that fulfil a predicate. -/
inductive SubSelect where
  | whole (head : String)
  | filtered (head : String) (filter : Predicate)

end

namespace Predicate

/-- One comparison with a pattern in which a backslash escapes. -/
def likeFragment (column : String) (negated : Bool) (pattern : String) : Fragment :=
  [.sql (column ++ (if negated then " NOT ILIKE " else " ILIKE ")), .value (.text pattern),
    .sql " ESCAPE E'\\\\'"]

def prefixMatchFragment (column : String) (terms : List String) : Fragment :=
  [.sql ("to_tsvector('simple', " ++ column ++ ") @@ to_tsquery('simple', array_to_string(" ++
      "ARRAY(SELECT quote_literal(t) || ':*' FROM unnest("), .value (.textArray terms),
    .sql "::text[]) AS t), ' | '))"]

mutual

/-- The SQL of a predicate, unless it constrains nothing. -/
def fragment? : Predicate → Option Fragment
  | like column patterns negated =>
    Fragment.combine (if negated then " AND " else " OR ")
      (patterns.map (likeFragment column negated))
  | anyOf column values negated =>
    if values.isEmpty then none
    else some [.sql (column ++ (if negated then " <> ALL(" else " = ANY(")),
      .value (.textArray values), .sql "::text[])"]
  | idIn column ids =>
    some [.sql (column ++ " = ANY("), .value (.bigintArray ids), .sql "::bigint[])"]
  | membership column selects negated =>
    if selects.isEmpty then none
    else some (.sql (column ++ (if negated then " NOT IN (" else " IN (")) ::
      Fragment.join " UNION " (selectFragments selects) ++ [.sql ")"])
  | prefixMatch column terms =>
    some (if terms.isEmpty then [.sql "FALSE"] else prefixMatchFragment column terms)
  | and parts => Fragment.combine " AND " (fragments parts)
  | or parts => Fragment.combine " OR " (fragments parts)

/-- The SQL of those predicates that constrain something. -/
def fragments : List Predicate → List Fragment
  | [] => []
  | p :: ps => p.fragment?.toList ++ fragments ps

/-- The SQL of a sub-select. -/
def selectFragment : SubSelect → Fragment
  | .whole head => [.sql head]
  | .filtered head filter =>
    match filter.fragment? with
    | none => [.sql head]
    | some f => .sql (head ++ " WHERE ") :: f

def selectFragments : List SubSelect → List Fragment
  | [] => []
  | s :: ss => selectFragment s :: selectFragments ss

end

/-- A WHERE clause that asks for all the conditions, empty if there are none. -/
def whereClause : List Fragment → Fragment
  | [] => []
  | fs => .sql " WHERE " :: Fragment.join " AND " fs

end Predicate

end FacetSearch
