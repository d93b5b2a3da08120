import FacetSearch.Sql.Order
import FacetSearch.Text.LikePattern

/-!
# Ranking

The order of dataset results: by how well the name fits the terms asked for, then by the
namespace of the URN, then by URN and identifier.
-/

namespace FacetSearch

/-- URNs that begin with `stem` have the rank `tier`; lower tiers come first. -/
structure NamespaceTier where
  stem : String
  tier : Int
deriving DecidableEq, Repr

structure Ranking where
  namespaces : List NamespaceTier
  /-- The tier of a URN in none of the namespaces. -/
  fallback : Int
deriving DecidableEq, Repr

namespace Ranking

/-- The tier of names that fit one of the terms in the way `pattern` says. -/
def nameTier (terms : List String) (rank : Int) (pattern : String → String) : Tier :=
  ⟨.like "d.name" (terms.map pattern) false, rank⟩

/-- Names equal to a term come first, then those that begin with one, end with one and
contain one. -/
def nameKey (terms : List String) : OrderKey :=
  .tiered [nameTier terms 0 Text.likeLiteral, nameTier terms 2 Text.likeStartsWith,
    nameTier terms 3 Text.likeEndsWith, nameTier terms 4 Text.likeContains] 9

/-- The tier of URNs in one namespace. -/
def namespaceTier (n : NamespaceTier) : Tier :=
  ⟨.like "d.urn" [Text.likeStartsWith n.stem] false, n.tier⟩

def namespaceKey (r : Ranking) : OrderKey :=
  .tiered (r.namespaces.map namespaceTier) r.fallback

/-- The order of datasets found by facets; names count only when terms for them are given. -/
def datasetOrder (r : Ranking) (terms : List String) : List OrderKey :=
  (if terms.isEmpty then [] else [nameKey terms]) ++
    (if r.namespaces.isEmpty then [] else [r.namespaceKey]) ++
    Order.columns ["d.urn", "d.id"]

/-- The order of datasets found by free text alone. -/
def freeTextOrder : List OrderKey := Order.columns ["d.name", "d.id"]

end Ranking

end FacetSearch
