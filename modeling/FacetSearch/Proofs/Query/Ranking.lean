import FacetSearch.Proofs.Catalog.Snapshot
import FacetSearch.Query.Ranking

/-!
# Ranks of datasets

What the keys of the order of datasets give a dataset. A `CASE` takes the first condition that is
true, so with ranks that ascend the first key is the best rank that any of the terms gives.
-/

namespace FacetSearch

/-- A way in which a text can fit a term. -/
inductive Fit where
  | whole
  | beginning
  | ending
  | anywhere
deriving DecidableEq, Repr

namespace Fit

/-- All ways, the closest fit first. -/
def all : List Fit := [whole, beginning, ending, anywhere]

def rank : Fit → Int
  | whole => 0
  | beginning => 2
  | ending => 3
  | anywhere => 4

def pattern : Fit → String → String
  | whole => Text.likeLiteral
  | beginning => Text.likeStartsWith
  | ending => Text.likeEndsWith
  | anywhere => Text.likeContains

end Fit

namespace TextRules

variable (rules : TextRules)

/-- The text is the term up to case. -/
def Equals (text term : String) : Prop :=
  List.Forall₂ (fun c d => rules.sameLetter c d = true) term.toList text.toList

def BeginsWith (text term : String) : Prop :=
  ∃ part after, text.toList = part ++ after ∧
    List.Forall₂ (fun c d => rules.sameLetter c d = true) term.toList part

def EndsWith (text term : String) : Prop :=
  ∃ before part, text.toList = before ++ part ∧
    List.Forall₂ (fun c d => rules.sameLetter c d = true) term.toList part

def Fits (text term : String) : Fit → Prop
  | .whole => rules.Equals text term
  | .beginning => rules.BeginsWith text term
  | .ending => rules.EndsWith text term
  | .anywhere => rules.Contains text term

lemma like_pattern (text term : String) (fit : Fit) :
    rules.like (fit.pattern term) text = true ↔ rules.Fits text term fit := by
  cases fit with
  | whole => exact likeMatches_likeLiteral
  | beginning => exact likeMatches_likeStartsWith
  | ending => exact likeMatches_likeEndsWith
  | anywhere => exact likeMatches_likeContains

instance (text term : String) (fit : Fit) : Decidable (rules.Fits text term fit) :=
  decidable_of_iff _ (rules.like_pattern text term fit)

instance (text term : String) : Decidable (rules.Equals text term) :=
  inferInstanceAs (Decidable (rules.Fits text term .whole))

instance (text term : String) : Decidable (rules.BeginsWith text term) :=
  inferInstanceAs (Decidable (rules.Fits text term .beginning))

instance (text term : String) : Decidable (rules.EndsWith text term) :=
  inferInstanceAs (Decidable (rules.Fits text term .ending))

instance (text term : String) : Decidable (rules.Contains text term) :=
  inferInstanceAs (Decidable (rules.Fits text term .anywhere))

/-- The rank of a name that is asked for by these terms. -/
def nameRank (name : String) (terms : List String) : Int :=
  if ∃ term ∈ terms, rules.Equals name term then 0
  else if ∃ term ∈ terms, rules.BeginsWith name term then 2
  else if ∃ term ∈ terms, rules.EndsWith name term then 3
  else if ∃ term ∈ terms, rules.Contains name term then 4
  else 9

end TextRules

/-- The tier of the first namespace that a URN begins with, else the fallback. -/
def Ranking.urnRank (r : Ranking) (rules : TextRules) (urn : String) : Int :=
  ((r.namespaces.find? fun n => rules.BeginsWith urn n.stem).map NamespaceTier.tier).getD r.fallback

/-! ## First matches -/

section First

variable {α : Type} (rank : α → Int) (fallback : Int)

/-- The rank of the first that fulfils `p`, else the fallback. -/
def rankOfFirst (p : α → Bool) : List α → Int
  | [] => fallback
  | a :: as => if p a then rank a else rankOfFirst p as

lemma rankOfFirst_eq_find? (p : α → Bool) (as : List α) :
    rankOfFirst rank fallback p as = ((as.find? p).map rank).getD fallback := by
  induction as with
  | nil => rfl
  | cons a as ih =>
    rw [rankOfFirst, List.find?_cons]
    cases hp : p a with
    | true => rfl
    | false => exact ih

lemma firstRank_map (p : α → Bool) (as : List α) :
    firstRank fallback (as.map fun a => (.ofBool (p a), rank a)) =
      rankOfFirst rank fallback p as := by
  induction as with
  | nil => rfl
  | cons a as ih =>
    rw [List.map_cons, rankOfFirst]
    cases hp : p a with
    | true => rfl
    | false => exact ih

variable {rank fallback}

lemma le_rankOfFirst {n : Int} {p : α → Bool} {as : List α} (hfallback : n ≤ fallback)
    (has : ∀ a ∈ as, n ≤ rank a) : n ≤ rankOfFirst rank fallback p as := by
  induction as with
  | nil => exact hfallback
  | cons a as ih =>
    rw [List.forall_mem_cons] at has
    rw [rankOfFirst]
    split
    · exact has.1
    · exact ih has.2

/-- When ranks ascend, the first match for either of two conditions has the better rank of their
first matches. -/
lemma rankOfFirst_or {p q : α → Bool} {as : List α}
    (hascending : as.Pairwise fun a b => rank a ≤ rank b) (hfallback : ∀ a ∈ as, rank a ≤ fallback) :
    rankOfFirst rank fallback (fun a => p a || q a) as =
      min (rankOfFirst rank fallback p as) (rankOfFirst rank fallback q as) := by
  induction as with
  | nil => exact (min_self fallback).symm
  | cons a as ih =>
    rw [List.pairwise_cons] at hascending
    rw [List.forall_mem_cons] at hfallback
    -- Whichever condition `a` fulfils, the other one has no better rank from the rest.
    have hfirst (r : α → Bool) : rank a ≤ rankOfFirst rank fallback r as :=
      le_rankOfFirst hfallback.1 hascending.1
    rw [rankOfFirst, rankOfFirst, rankOfFirst]
    by_cases hp : p a = true
    · rw [if_pos (by simp [hp]), if_pos hp]
      split
      · exact (min_self _).symm
      · exact (min_eq_left (hfirst q)).symm
    · by_cases hq : q a = true
      · rw [if_pos (by simp [hq]), if_neg hp, if_pos hq]
        exact (min_eq_right (hfirst p)).symm
      · rw [if_neg (by simp [hp, hq]), if_neg hp, if_neg hq]
        exact ih hascending.2 hfallback.2

end First

namespace TextRules

variable (rules : TextRules) (name : String)

lemma nameRank_eq_rankOfFirst (terms : List String) :
    rules.nameRank name terms =
      rankOfFirst Fit.rank 9 (fun fit => terms.any fun term => rules.Fits name term fit) Fit.all := by
  simp only [nameRank, Fit.all, rankOfFirst, Fit.rank, List.any_eq_true, decide_eq_true_eq]
  rfl

lemma nameRank_cons (term : String) (terms : List String) :
    rules.nameRank name (term :: terms) =
      min (rules.nameRank name [term]) (rules.nameRank name terms) := by
  have hascending : Fit.all.Pairwise fun a b => a.rank ≤ b.rank := by decide
  have hfallback : ∀ fit ∈ Fit.all, fit.rank ≤ 9 := by decide
  have hor := rankOfFirst_or (p := fun fit => [term].any fun t => rules.Fits name t fit)
    (q := fun fit => terms.any fun t => rules.Fits name t fit) hascending hfallback
  rw [nameRank_eq_rankOfFirst, nameRank_eq_rankOfFirst, nameRank_eq_rankOfFirst, ← hor]
  simp only [List.any_cons, List.any_nil, Bool.or_false]

/-- The rank among several terms is the best that one of them gives. -/
lemma min?_nameRank (terms : List String) :
    (terms.map fun term => rules.nameRank name [term]).min? =
      if terms = [] then none else some (rules.nameRank name terms) := by
  induction terms with
  | nil => rfl
  | cons term terms ih =>
    have hcons := rules.nameRank_cons name term terms
    rw [List.map_cons, List.min?_cons, ih, if_neg (List.cons_ne_nil term terms)]
    cases terms with
    | nil => rfl
    | cons t ts =>
      rw [hcons]
      rfl

end TextRules

/-! ## The keys of the order -/

section Keys

variable (rules : TextRules) (heads : Heads) {t : Tuple} {column v : String}

lemma Predicate.truth?_like (hv : t.cell column = .text v) {patterns : List String}
    (hne : patterns ≠ []) :
    (like column patterns false).truth? rules heads t =
      some (.ofBool (patterns.any fun pattern => rules.like pattern v)) := by
  have hempty : patterns.isEmpty = false := by simpa using hne
  rw [truth?, hempty, hv]
  simp only [Bool.false_eq_true, if_false, Cell.like, Truth.any_map_ofBool]

/-- A condition on patterns made from terms looks for a term that the text fits. -/
lemma Predicate.truth?_terms (hv : t.cell column = .text v) (fit : Fit) {terms : List String}
    (hne : terms ≠ []) :
    (like column (terms.map fit.pattern) false).truth? rules heads t =
      some (.ofBool (terms.any fun term => rules.Fits v term fit)) := by
  have hpatterns : terms.map fit.pattern ≠ [] := by simpa using hne
  have hlike : (fun pattern => rules.like pattern v) ∘ fit.pattern =
      fun term => decide (rules.Fits v term fit) := by
    funext term
    rw [Bool.eq_iff_iff, decide_eq_true_iff]
    exact rules.like_pattern v term fit
  rw [truth?_like rules heads hv hpatterns, List.any_map, hlike]

lemma OrderKey.cell?_tiered {α : Type} {as : List α} (hne : as ≠ []) {tier : α → Tier}
    {p : α → Bool} {rank : α → Int}
    (harm : ∀ a, (tier a).arm rules heads t = some (.ofBool (p a), rank a)) (fallback : Int) :
    (tiered (as.map tier) fallback).cell? rules heads t =
      some (.bigint (rankOfFirst rank fallback p as)) := by
  have harms : (as.map tier).filterMap (Tier.arm rules heads t) =
      as.map fun a => (.ofBool (p a), rank a) := by
    rw [List.filterMap_map, ← List.filterMap_eq_map]
    exact List.filterMap_congr fun a _ => harm a
  rw [cell?, harms, ← firstRank_map]
  cases as with
  | nil => exact absurd rfl hne
  | cons a as => rfl

namespace Ranking

lemma cell?_nameKey (hname : t.cell "d.name" = .text v) {terms : List String} (hne : terms ≠ []) :
    (nameKey terms).cell? rules heads t = some (.bigint (rules.nameRank v terms)) := by
  have hkey : nameKey terms =
      .tiered (Fit.all.map fun fit => nameTier terms fit.rank fit.pattern) 9 := rfl
  have harm (fit : Fit) : (nameTier terms fit.rank fit.pattern).arm rules heads t =
      some (.ofBool (terms.any fun term => rules.Fits v term fit), fit.rank) := by
    rw [Tier.arm, nameTier, Predicate.truth?_terms rules heads hname fit hne]
    rfl
  rw [rules.nameRank_eq_rankOfFirst, hkey]
  exact OrderKey.cell?_tiered rules heads (by decide) harm 9

lemma cell?_namespaceKey (r : Ranking) (hurn : t.cell "d.urn" = .text v)
    (hne : r.namespaces ≠ []) :
    r.namespaceKey.cell? rules heads t = some (.bigint (r.urnRank rules v)) := by
  have harm (n : NamespaceTier) : (namespaceTier n).arm rules heads t =
      some (.ofBool (rules.BeginsWith v n.stem), n.tier) := by
    have htruth := Predicate.truth?_terms rules heads hurn .beginning (List.cons_ne_nil n.stem [])
    rw [List.any_cons, List.any_nil, Bool.or_false] at htruth
    rw [Tier.arm, namespaceTier]
    exact congrArg (Option.map _) htruth
  rw [urnRank, ← rankOfFirst_eq_find?]
  exact OrderKey.cell?_tiered rules heads hne harm r.fallback

end Ranking

/-- A key gives rows a cell just where it has SQL. -/
lemma OrderKey.isSome_fragment? (t : Tuple) (key : OrderKey) :
    key.fragment?.isSome = (key.cell? rules heads t).isSome := by
  cases key with
  | column name => rfl
  | tiered tiers fallback =>
    have hlength : (tiers.filterMap Tier.arm?).length =
        (tiers.filterMap (Tier.arm rules heads t)).length := by
      have harm (tier : Tier) : tier.arm?.isSome = (tier.arm rules heads t).isSome := by
        rw [Tier.arm?, Tier.arm, Option.isSome_map, Option.isSome_map, Predicate.isSome_truth?]
      rw [List.length_filterMap_eq_countP, List.length_filterMap_eq_countP, funext harm]
    rw [cell?, fragment?]
    cases hsql : tiers.filterMap Tier.arm? <;>
      cases harms : tiers.filterMap (Tier.arm rules heads t) <;>
      simp_all

/-- An order has as many items of SQL as it gives cells to a row. -/
lemma Order.length_filterMap_fragment? (t : Tuple) (keys : List OrderKey) :
    (keys.filterMap OrderKey.fragment?).length = (cells rules heads t keys).length := by
  rw [cells, List.length_filterMap_eq_countP, List.length_filterMap_eq_countP,
    funext (OrderKey.isSome_fragment? rules heads t)]

lemma Ranking.fragment?_datasetOrder (r : Ranking) (terms : List String) :
    Order.fragment? (r.datasetOrder terms) =
      some (Fragment.join ", " ((r.datasetOrder terms).filterMap OrderKey.fragment?)) ∧
    [[.sql "d.urn"], [.sql "d.id"]] <:+ (r.datasetOrder terms).filterMap OrderKey.fragment? := by
  have hlast : [[.sql "d.urn"], [.sql "d.id"]] <:+
      (r.datasetOrder terms).filterMap OrderKey.fragment? := by
    rw [datasetOrder, List.filterMap_append]
    exact List.suffix_append _ _
  refine ⟨?_, hlast⟩
  rw [Order.fragment?]
  split
  · next hnone =>
    rw [hnone] at hlast
    cases List.suffix_nil.mp hlast
  · rfl

end Keys

/-- A dataset is sorted by how well its name fits the terms, if there are any, by the namespace of
its URN, if any are told apart, by its URN and by its identifier. The rank of the name is the best
one that a single term gives. The SQL of the order has an item for each of these keys. -/
theorem Ranking.cells_eq_ranks (rules : TextRules) (heads : Heads) (r : Ranking)
    (terms : List String) (d : DatasetRecord) :
    Order.cells rules heads d.tuple (r.datasetOrder terms) =
        (if terms = [] then [] else [.bigint (rules.nameRank d.name terms)]) ++
        (if r.namespaces = [] then [] else [.bigint (r.urnRank rules d.urn)]) ++
        [.text d.urn, .bigint d.id] ∧
      (terms.map fun term => rules.nameRank d.name [term]).min? =
        (if terms = [] then none else some (rules.nameRank d.name terms)) ∧
      ∃ items : List Fragment,
        Order.fragment? (r.datasetOrder terms) = some (Fragment.join ", " items) ∧
        items.length = (Order.cells rules heads d.tuple (r.datasetOrder terms)).length ∧
        [[.sql "d.urn"], [.sql "d.id"]] <:+ items := by
  obtain ⟨hsql, hlast⟩ := r.fragment?_datasetOrder terms
  refine ⟨?_, rules.min?_nameRank d.name terms, _, hsql,
    Order.length_filterMap_fragment? rules heads d.tuple _, hlast⟩
  have hcolumns : Order.cells rules heads d.tuple (Order.columns ["d.urn", "d.id"]) =
      [.text d.urn, .bigint d.id] := rfl
  rw [datasetOrder, Order.cells, List.filterMap_append, List.filterMap_append]
  congr 1
  · congr 1
    · by_cases hterms : terms = []
      · rw [if_pos hterms, if_pos (by simpa using hterms)]
        rfl
      · have hname := cell?_nameKey rules heads (t := d.tuple) rfl hterms
        rw [if_neg hterms, if_neg (by simpa using hterms), List.filterMap_cons_some hname]
        rfl
    · by_cases hspaces : r.namespaces = []
      · rw [if_pos hspaces, if_pos (by simpa using hspaces)]
        rfl
      · have hurn := r.cell?_namespaceKey rules heads (t := d.tuple) rfl hspaces
        rw [if_neg hspaces, if_neg (by simpa using hspaces), List.filterMap_cons_some hurn]
        rfl

/-- A name that begins with one term and ends with the other has the rank of the first. -/
example : TextRules.ascii.nameRank "ab" ["B", "A"] = 2 := by decide

end FacetSearch
