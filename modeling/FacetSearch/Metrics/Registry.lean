import FacetSearch.Metrics.Labels

/-!
# Metrics

Counts and distributions of what the service has done. A family keeps its samples under the hashes
of label values. Label values with the same hash share one sample.
-/

namespace FacetSearch

/-- The samples of a family by label values, in order of first use. -/
abbrev Samples (κ ν : Type) := List (κ × ν)

namespace Samples

/-- The samples with the one under a key changed, which starts from `initial`. A sample keeps
the labels with which it was used first. -/
def adjust [Labelled κ] (hash : LabelHash) (key : κ) (initial : ν) (f : ν → ν) :
    Samples κ ν → Samples κ ν
  | [] => [(key, f initial)]
  | (k, v) :: rest =>
    if hash.ofLabels k = hash.ofLabels key then (k, f v) :: rest
    else (k, v) :: adjust hash key initial f rest

end Samples

/-- A distribution: how many observations fall to each bound, their sum and their number.
An observation falls to the first bound that it does not exceed, if there is one. -/
structure Histogram where
  buckets : List Nat
  sum : Float
  count : Nat

namespace Histogram

/-- The distribution of no observations. -/
def empty (bounds : List Float) : Histogram := ⟨bounds.map fun _ => 0, 0, 0⟩

/-- The buckets with one more observation. -/
def addTo (x : Float) : List Float → List Nat → List Nat
  | b :: bounds, n :: buckets =>
    if x ≤ b then (n + 1) :: buckets else n :: addTo x bounds buckets
  | _, buckets => buckets

def observe (bounds : List Float) (x : Float) (h : Histogram) : Histogram :=
  ⟨addTo x bounds h.buckets, h.sum + x, h.count + 1⟩

end Histogram

structure Registry where
  hash : LabelHash := .fnv1a
  requests : Samples RequestLabels Nat := []
  requestSeconds : Samples RouteLabels Histogram := []
  inFlight : Samples RouteLabels Int := []
  searches : Samples OutcomeLabels Nat := []
  searchSeconds : Samples SearchLabels Histogram := []
  searchMatches : Samples String Histogram := []

namespace Registry

/-- The bounds of durations, in seconds. -/
def secondsBounds : List Float :=
  [0.001, 0.005, 0.01, 0.025, 0.05, 0.1, 0.25, 0.5, 1, 2.5, 5, 10]

/-- The bounds of numbers of matches. -/
def matchesBounds : List Float := [0, 1, 10, 50, 100, 500, 1000, 5000, 10000, 100000]

/-- A request has come in. -/
def enter (route : RouteLabels) (r : Registry) : Registry :=
  { r with inFlight := r.inFlight.adjust r.hash route 0 (· + 1) }

/-- A request has been answered. -/
def leave (route : RouteLabels) (status : String) (seconds : Float) (r : Registry) : Registry :=
  { r with
    requests := r.requests.adjust r.hash ⟨route, status⟩ 0 (· + 1)
    requestSeconds := r.requestSeconds.adjust r.hash route (.empty secondsBounds)
      (.observe secondsBounds seconds)
    inFlight := r.inFlight.adjust r.hash route 0 (· - 1) }

/-- A search has finished. -/
def recordSearch (search : SearchLabels) (status : String) (seconds : Float) (r : Registry) :
    Registry :=
  { r with
    searches := r.searches.adjust r.hash ⟨search, status⟩ 0 (· + 1)
    searchSeconds := r.searchSeconds.adjust r.hash search (.empty secondsBounds)
      (.observe secondsBounds seconds) }

/-- A search has found so many matches; less than none counts as none. -/
def recordMatches (domain : String) (count : Int) (r : Registry) : Registry :=
  { r with
    searchMatches := r.searchMatches.adjust r.hash domain (.empty matchesBounds)
      (.observe matchesBounds (Float.ofNat count.toNat)) }

end Registry

end FacetSearch
