import FacetSearch.Decimal.Layout
import FacetSearch.Metrics.Registry

/-!
# Exposition of metrics

The samples of a registry as lines of text: families in the order of their names, the
samples of a family in the order of their label values.
-/

namespace FacetSearch

/-- One line of the exposition. -/
structure SampleLine where
  name : String
  labels : List (String × String)
  value : String
deriving DecidableEq, Repr

namespace SampleLine

def escapeChar (c : Char) : List Char :=
  if c = '\\' ∨ c = '\x22' then ['\\', c] else if c = '\n' then ['\\', 'n'] else [c]

/-- A label value with backslashes, quotes and line ends escaped. -/
def escape (s : String) : String := String.ofList (s.toList.flatMap escapeChar)

def text (l : SampleLine) : String :=
  l.name ++ "\x7b" ++
    ",".intercalate (l.labels.map fun (k, v) => k ++ "=\"" ++ escape v ++ "\"") ++
    "\x7d " ++ l.value

end SampleLine

namespace Samples

/-- The order of texts, the first difference deciding. -/
def valuesLe : List String → List String → Bool
  | [], _ => true
  | _ :: _, [] => false
  | a :: as, b :: bs => if a < b then true else if b < a then false else valuesLe as bs

def le [Labelled κ] (a b : κ × ν) : Bool :=
  valuesLe (Labelled.values a.1) (Labelled.values b.1)

/-- The samples in the order of their label values. -/
def sorted [Labelled κ] (s : Samples κ ν) : Samples κ ν := s.mergeSort le

end Samples

namespace Histogram

/-- The numbers of observations up to each bound, after `before` ones. -/
def cumulative (before : Nat) : List Nat → List Nat
  | [] => []
  | n :: rest => (before + n) :: cumulative (before + n) rest

def lines (name : String) (labels : List (String × String)) (bounds : List Float)
    (h : Histogram) : List SampleLine :=
  let bucket (le : String) (n : Nat) : SampleLine :=
    ⟨name ++ "_bucket", labels ++ [("le", le)], toString n⟩
  (bounds.zip (cumulative 0 h.buckets)).map (fun (b, n) => bucket (DecimalLayout.plain.float b) n)
    ++ [bucket "+Inf" h.count, ⟨name ++ "_sum", labels, DecimalLayout.plain.float h.sum⟩,
      ⟨name ++ "_count", labels, toString h.count⟩]

end Histogram

namespace Registry

/-- The lines of a family of single numbers. -/
def numberLines [Labelled κ] [ToString ν] (name : String) (s : Samples κ ν) : List SampleLine :=
  s.sorted.map fun (key, n) => ⟨name, Labelled.labels key, toString n⟩

/-- The lines of a family of distributions. -/
def histogramLines [Labelled κ] (name : String) (bounds : List Float) (s : Samples κ Histogram) :
    List SampleLine :=
  s.sorted.flatMap fun (key, h) => h.lines name (Labelled.labels key) bounds

/-- All lines of the exposition. -/
def lines (r : Registry) : List SampleLine :=
  histogramLines "catalog_http_request_duration_seconds" secondsBounds r.requestSeconds ++
    numberLines "catalog_http_requests_in_flight" r.inFlight ++
    numberLines "catalog_http_requests_total" r.requests ++
    histogramLines "catalog_search_duration_seconds" secondsBounds r.searchSeconds ++
    histogramLines "catalog_search_matches" matchesBounds r.searchMatches ++
    numberLines "catalog_search_total" r.searches

end Registry

end FacetSearch
