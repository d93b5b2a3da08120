import FacetSearch.Metrics.Exposition
import Mathlib.Data.List.Pairwise
import Mathlib.Tactic.ByContra

/-!
# Lines of the exposition

The lines of a family bear its name, which tells them from the lines of the other families.
-/

namespace FacetSearch

namespace Registry

variable {κ ν : Type} [Labelled κ]

lemma mem_numberLines [ToString ν] {name : String} {s : Samples κ ν} {l : SampleLine} :
    l ∈ numberLines name s ↔
      ∃ sample ∈ s, ⟨name, Labelled.labels sample.1, toString sample.2⟩ = l := by
  rw [numberLines, List.mem_map]
  exact exists_congr fun sample => and_congr_left' List.mem_mergeSort

lemma name_of_mem_numberLines [ToString ν] {name : String} {s : Samples κ ν} {l : SampleLine}
    (h : l ∈ numberLines name s) : l.name ∈ [name] := by
  obtain ⟨sample, -, rfl⟩ := mem_numberLines.mp h
  exact List.mem_singleton_self name

lemma mem_histogramLines {name : String} {bounds : List Float} {s : Samples κ Histogram}
    {l : SampleLine} :
    l ∈ histogramLines name bounds s ↔
      ∃ sample ∈ s, l ∈ sample.2.lines name (Labelled.labels sample.1) bounds := by
  rw [histogramLines, List.mem_flatMap]
  exact exists_congr fun sample => and_congr_left' List.mem_mergeSort

/-- The names of the lines of a distribution. -/
def histogramNames (name : String) : List String :=
  [name ++ "_bucket", name ++ "_sum", name ++ "_count"]

lemma name_of_mem_histogramLines {name : String} {bounds : List Float}
    {s : Samples κ Histogram} {l : SampleLine} (h : l ∈ histogramLines name bounds s) :
    l.name ∈ histogramNames name := by
  obtain ⟨sample, -, hline⟩ := mem_histogramLines.mp h
  unfold Histogram.lines at hline
  rcases List.mem_append.mp hline with hbucket | hlast
  · obtain ⟨bucket, -, rfl⟩ := List.mem_map.mp hbucket
    exact List.mem_cons_self
  · simp only [List.mem_cons, List.not_mem_nil, or_false] at hlast
    rcases hlast with rfl | rfl | rfl <;> simp [histogramNames]

/-! ## Families -/

/-- The families of the exposition, each with the names of its lines. -/
def families (r : Registry) : List (List String × List SampleLine) :=
  [(histogramNames "catalog_http_request_duration_seconds",
      histogramLines "catalog_http_request_duration_seconds" secondsBounds r.requestSeconds),
    (["catalog_http_requests_in_flight"],
      numberLines "catalog_http_requests_in_flight" r.inFlight),
    (["catalog_http_requests_total"], numberLines "catalog_http_requests_total" r.requests),
    (histogramNames "catalog_search_duration_seconds",
      histogramLines "catalog_search_duration_seconds" secondsBounds r.searchSeconds),
    (histogramNames "catalog_search_matches",
      histogramLines "catalog_search_matches" matchesBounds r.searchMatches),
    (["catalog_search_total"], numberLines "catalog_search_total" r.searches)]

lemma lines_eq_flatMap (r : Registry) : r.lines = r.families.flatMap Prod.snd := by
  simp [lines, families]

lemma name_of_mem_family {r : Registry} :
    ∀ family ∈ r.families, ∀ l ∈ family.2, l.name ∈ family.1 := by
  unfold families
  simp only [List.forall_mem_cons, List.not_mem_nil, false_implies, implies_true, and_true]
  exact ⟨fun _ => name_of_mem_histogramLines, fun _ => name_of_mem_numberLines,
    fun _ => name_of_mem_numberLines, fun _ => name_of_mem_histogramLines,
    fun _ => name_of_mem_histogramLines, fun _ => name_of_mem_numberLines⟩

/-- No two families have a name in common. -/
lemma families_apart (r : Registry) :
    r.families.Pairwise fun a b => ∀ name ∈ a.1, name ∉ b.1 := by
  have hnames : (r.families.map Prod.fst).Pairwise fun a b => ∀ name ∈ a, name ∉ b := by
    change [histogramNames "catalog_http_request_duration_seconds",
      ["catalog_http_requests_in_flight"], ["catalog_http_requests_total"],
      histogramNames "catalog_search_duration_seconds", histogramNames "catalog_search_matches",
      ["catalog_search_total"]].Pairwise fun a b => ∀ name ∈ a, name ∉ b
    decide
  exact List.pairwise_map.mp hnames

/-- A line with a name of a family is one of the family. -/
lemma mem_lines_iff {r : Registry} {names : List String} {family : List SampleLine}
    (hfamily : (names, family) ∈ r.families) {l : SampleLine} (hname : l.name ∈ names) :
    l ∈ r.lines ↔ l ∈ family := by
  rw [lines_eq_flatMap, List.mem_flatMap]
  constructor
  · rintro ⟨other, hother, hl⟩
    by_contra hnone
    have hne : (names, family) ≠ other := by
      rintro rfl
      exact hnone hl
    have hsymm : Std.Symm fun a b : List String × List SampleLine => ∀ name ∈ a.1, name ∉ b.1 :=
      ⟨fun a b hab name hb ha => hab name ha hb⟩
    exact r.families_apart.forall hfamily hother hne l.name hname
      (name_of_mem_family other hother l hl)
  · exact fun hl => ⟨_, hfamily, hl⟩

lemma requestSeconds_mem_families (r : Registry) :
    (histogramNames "catalog_http_request_duration_seconds",
      histogramLines "catalog_http_request_duration_seconds" secondsBounds r.requestSeconds) ∈
        r.families := List.mem_cons_self

lemma inFlight_mem_families (r : Registry) :
    (["catalog_http_requests_in_flight"],
      numberLines "catalog_http_requests_in_flight" r.inFlight) ∈ r.families :=
  List.mem_cons_of_mem _ List.mem_cons_self

lemma requests_mem_families (r : Registry) :
    (["catalog_http_requests_total"], numberLines "catalog_http_requests_total" r.requests) ∈
      r.families := List.mem_cons_of_mem _ (List.mem_cons_of_mem _ List.mem_cons_self)

lemma mem_lines_inFlight (r : Registry) {l : SampleLine}
    (h : l.name = "catalog_http_requests_in_flight") :
    l ∈ r.lines ↔ l ∈ numberLines "catalog_http_requests_in_flight" r.inFlight :=
  mem_lines_iff r.inFlight_mem_families (h ▸ List.mem_singleton_self _)

/-! ## Labels -/

lemma exists_numberLine_iff [ToString ν] {name : String} {s : Samples κ ν}
    {label : String × String} :
    (∃ l ∈ numberLines name s, l.name = name ∧ label ∈ l.labels) ↔
      ∃ key ∈ s.map Prod.fst, label ∈ Labelled.labels key := by
  constructor
  · rintro ⟨l, hl, -, hlabel⟩
    obtain ⟨sample, hsample, rfl⟩ := mem_numberLines.mp hl
    exact ⟨sample.1, List.mem_map_of_mem hsample, hlabel⟩
  · rintro ⟨key, hkey, hlabel⟩
    obtain ⟨sample, hsample, rfl⟩ := List.mem_map.mp hkey
    exact ⟨_, mem_numberLines.mpr ⟨sample, hsample, rfl⟩, rfl, hlabel⟩

/-- All lines of a distribution have its labels, and but for the bounds no others. -/
lemma exists_histogramLine_iff {name : String} {bounds : List Float} {s : Samples κ Histogram}
    {label : String × String} (hlabel : label.1 ≠ "le") {lineName : String}
    (hname : lineName ∈ histogramNames name) :
    (∃ l ∈ histogramLines name bounds s, l.name = lineName ∧ label ∈ l.labels) ↔
      ∃ key ∈ s.map Prod.fst, label ∈ Labelled.labels key := by
  have hbound {labels : List (String × String)} {le : String} :
      label ∈ labels ++ [("le", le)] ↔ label ∈ labels := by
    rw [List.mem_append, List.mem_singleton]
    exact or_iff_left fun heq => hlabel (congrArg Prod.fst heq)
  constructor
  · rintro ⟨l, hl, -, hmem⟩
    obtain ⟨sample, hsample, hline⟩ := mem_histogramLines.mp hl
    refine ⟨sample.1, List.mem_map_of_mem hsample, ?_⟩
    unfold Histogram.lines at hline
    rcases List.mem_append.mp hline with hbucket | hlast
    · obtain ⟨bucket, -, rfl⟩ := List.mem_map.mp hbucket
      exact hbound.mp hmem
    · simp only [List.mem_cons, List.not_mem_nil, or_false] at hlast
      rcases hlast with rfl | rfl | rfl
      · exact hbound.mp hmem
      · exact hmem
      · exact hmem
  · rintro ⟨key, hkey, hmem⟩
    obtain ⟨sample, hsample, rfl⟩ := List.mem_map.mp hkey
    have hlines {l : SampleLine} (hl : l ∈ sample.2.lines name (Labelled.labels sample.1) bounds) :
        l ∈ histogramLines name bounds s := mem_histogramLines.mpr ⟨sample, hsample, hl⟩
    unfold histogramNames at hname
    simp only [List.mem_cons, List.not_mem_nil, or_false] at hname
    rcases hname with rfl | rfl | rfl
    · exact ⟨_, hlines (List.mem_append_right _ List.mem_cons_self), rfl, hbound.mpr hmem⟩
    · exact ⟨_, hlines (List.mem_append_right _ (List.mem_cons_of_mem _ List.mem_cons_self)), rfl,
        hmem⟩
    · exact ⟨_, hlines (List.mem_append_right _ (List.mem_cons_of_mem _
        (List.mem_cons_of_mem _ List.mem_cons_self))), rfl, hmem⟩

/-- A request that comes in shows in one family only. -/
lemma lines_enter (route : RouteLabels) (r : Registry) :
    (r.enter route).lines.filter (·.name ≠ "catalog_http_requests_in_flight") =
      r.lines.filter (·.name ≠ "catalog_http_requests_in_flight") := by
  have hnone (s : Samples RouteLabels Int) :
      (numberLines "catalog_http_requests_in_flight" s).filter
        (·.name ≠ "catalog_http_requests_in_flight") = [] := by
    refine List.filter_eq_nil_iff.mpr fun l hl => ?_
    have hname := List.mem_singleton.mp (name_of_mem_numberLines hl)
    simpa using hname
  simp only [enter, lines, List.filter_append, hnone]

end Registry

end FacetSearch
