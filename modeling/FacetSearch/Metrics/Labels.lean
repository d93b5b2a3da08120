import FacetSearch.Text.Bytes

/-!
# Labels of samples

The labels under which requests and searches are counted, and the hash by which samples are told
apart.
-/

namespace FacetSearch

/-- The labels of a sample with their names, in the order of the names. -/
class Labelled (κ : Type) where
  labels : κ → List (String × String)

namespace Labelled

def values [Labelled κ] (key : κ) : List String := (labels key).map Prod.snd

/-- The label values in a row. -/
def text [Labelled κ] (key : κ) : String := String.join (values key)

end Labelled

/-- The labels of a request. -/
structure RouteLabels where
  method : String
  path : String
deriving DecidableEq, Repr

/-- The labels of an answered request. -/
structure RequestLabels where
  route : RouteLabels
  status : String
deriving DecidableEq, Repr

/-- The labels of a search: what is searched, and the way in which. -/
structure SearchLabels where
  domain : String
  path : String
deriving DecidableEq, Repr

/-- The labels of a finished search. -/
structure OutcomeLabels where
  search : SearchLabels
  status : String
deriving DecidableEq, Repr

instance : Labelled RouteLabels := ⟨fun l => [("method", l.method), ("path", l.path)]⟩

instance : Labelled RequestLabels :=
  ⟨fun l => Labelled.labels l.route ++ [("status", l.status)]⟩

instance : Labelled SearchLabels := ⟨fun l => [("domain", l.domain), ("path", l.path)]⟩

instance : Labelled OutcomeLabels :=
  ⟨fun l => Labelled.labels l.search ++ [("status", l.status)]⟩

instance : Labelled String := ⟨fun domain => [("domain", domain)]⟩

/-! ## The labels of searches -/

namespace SearchEngine

def datasetDomain : String := "datasets"

def flowDomain : String := "flow_jobs"

end SearchEngine

def searchDomains : List String := [SearchEngine.datasetDomain, SearchEngine.flowDomain]

def searchKinds : List SearchLabels :=
  ["none", "structured", "fulltext", "narrowed"].map (SearchLabels.mk SearchEngine.datasetDomain) ++
    ["none", "flow", "job"].map (SearchLabels.mk SearchEngine.flowDomain)

def searchOutcomes : List OutcomeLabels :=
  searchKinds.flatMap fun search => ["empty", "success", "error"].map (OutcomeLabels.mk search)

/-! ## Hashes -/

/-- A hash of label values, by which alone a family tells its samples apart. The labels of searches
are few, and no two of a family have the same hash; labels of requests may have. -/
structure LabelHash where
  ofText : String → UInt64
  domains_apart : (searchDomains.map (ofText ∘ Labelled.text)).Nodup
  kinds_apart : (searchKinds.map (ofText ∘ Labelled.text)).Nodup
  outcomes_apart : (searchOutcomes.map (ofText ∘ Labelled.text)).Nodup

namespace LabelHash

def ofLabels [Labelled κ] (hash : LabelHash) (key : κ) : UInt64 := hash.ofText (Labelled.text key)

def fnv1aStep (h : UInt64) (b : UInt8) : UInt64 := (h ^^^ b.toUInt64) * 0x100000001b3

/-- The hash FNV-1a of the bytes of all values. -/
def fnv1a : LabelHash where
  ofText s := (Bytes.ofText s).foldl fnv1aStep 0xcbf29ce484222325
  domains_apart := by decide +kernel
  kinds_apart := by decide +kernel
  outcomes_apart := by decide +kernel

end LabelHash

end FacetSearch
