import FacetSearch.Options.Filter
import FacetSearch.Sql.Predicate
import FacetSearch.Text.LikePattern
import FacetSearch.Text.Words

/-!
# Clauses

The predicate for each facet of a filter. An empty facet has none.
-/

namespace FacetSearch

namespace ValueFacet

/-- How the values of a facet are compared with its column. -/
inductive Match where
  /-- The column contains the value, without regard to case. -/
  | substring
  /-- The column is the value. -/
  | exact
deriving DecidableEq, Repr

/-- The predicate for one list of values. -/
def Match.predicate (m : Match) (column : String) (values : List String) (negated : Bool) :
    Predicate :=
  match m with
  | substring => .like column (values.map Text.likeContains) negated
  | exact => .anyOf column values negated

/-- The predicate for a list of values, if there are any. -/
def side? (column : String) (m : Match) (values : List String) (negated : Bool) :
    Option Predicate :=
  if values.isEmpty then none else some (m.predicate column values negated)

/-- The predicate for the values wanted and those not wanted. -/
def predicate? (column : String) (m : Match) (f : ValueFacet) : Option Predicate :=
  match side? column m f.wanted false, side? column m f.unwanted true with
  | none, none => none
  | some p, none => some p
  | none, some q => some q
  | some p, some q => some (.and [p, q])

end ValueFacet

namespace Clause

/-- Datasets that have, or do not have, a field whose name contains one of the terms. -/
def fields? (terms : List String) (negated : Bool) : Option Predicate :=
  if terms.isEmpty then none
  else some (.membership "d.id"
    [.filtered "SELECT f.dataset_id FROM dict_field_detail f"
      (.like "f.field_name" (terms.map Text.likeContains) false)] negated)

def sources? (sources : List String) : Option Predicate :=
  if sources.isEmpty then none else some (.anyOf "d.source" sources false)

/-- Datasets with a comment, on themselves or on a field, in which a word begins with a word
of the text. -/
def comments (text : String) : Predicate :=
  .membership "d.id"
    [.filtered "SELECT c.dataset_id FROM comments c"
      (.prefixMatch "c.text" (Text.searchTerms text)),
     .filtered ("SELECT dfc.dataset_id FROM dict_dataset_field_comment dfc " ++
        "JOIN field_comments fc ON fc.id = dfc.comment_id")
      (.prefixMatch "fc.comment" (Text.searchTerms text))] false

end Clause

end FacetSearch
