import FacetSearch.Proofs.Metrics.Requests
import FacetSearch.Proofs.Text.Ends
import Mathlib.Data.Finset.Basic
import Mathlib.Data.Set.Finite.Basic

/-!
# Labels of paths

Four labels stand for all paths but those below the root of searches. Such a path is a label as it
is, up to slashes at its end, whether there is an endpoint at it or not: each new one of these paths
adds a label to every family of request metrics, unless its hash is that of another.
-/

namespace FacetSearch

/-! ## Labels that occur -/

/-- The labels of the service itself, and that of all unknown paths. -/
def sharedLabels : List String := ["/", "/health", "/metrics", "/other"]

def searchRoot : List Char := "/api/v1/advsearch/".toList

/-- The label is a path below the root of searches that does not end in a slash. -/
def IsSearchLabel (label : String) : Prop :=
  ∃ segments, ∃ c ≠ '/', label.toList = searchRoot ++ segments ∧ segments.getLast? = some c

lemma dropSlashes_eq_rdropWhile (path : String) :
    dropSlashes path = path.toList.rdropWhile (· = '/') := rfl

lemma getLast?_dropSlashes_ne (path : String) : (dropSlashes path).getLast? ≠ some '/' := by
  intro hlast
  have hnot := of_mem_getLast?_rdropWhile (p := (· = '/')) path.toList '/' hlast
  exact of_decide_eq_false hnot rfl

lemma dropSlashes_eq_toList {path : String} (h : path.toList.getLast? ≠ some '/') :
    dropSlashes path = path.toList := by
  rw [dropSlashes_eq_rdropWhile, rdropWhile_eq_self_iff]
  intro c hlast
  exact decide_eq_false fun hslash => h (hslash ▸ hlast)

lemma pathLabel_of_below {path : String} (h : searchRoot <+: dropSlashes path) :
    pathLabel path = String.ofList (dropSlashes path) := by
  have hne : dropSlashes path ≠ [] := by
    intro hnil
    rw [hnil] at h
    exact absurd (List.prefix_nil.mp h) (by decide)
  unfold pathLabel
  rw [if_neg hne, if_pos (.inl (List.isPrefixOf_iff_prefix.mpr h))]

lemma pathLabel_mem_sharedLabels {path : String} (h : ¬ searchRoot <+: dropSlashes path) :
    pathLabel path ∈ sharedLabels := by
  have hbelow : ¬ searchRoot.isPrefixOf (dropSlashes path) = true := fun hbelow =>
    h (List.isPrefixOf_iff_prefix.mp hbelow)
  simp only [pathLabel]
  split
  · decide
  · split
    · next hknown =>
      rcases hknown with hsearch | hhealth | hmetrics
      · exact absurd hsearch hbelow
      · rw [hhealth]
        decide
      · rw [hmetrics]
        decide
    · decide

lemma isSearchLabel_pathLabel {path : String} (h : searchRoot <+: dropSlashes path) :
    IsSearchLabel (pathLabel path) := by
  have hslash := getLast?_dropSlashes_ne path
  obtain ⟨segments, hsegments⟩ := h
  rw [pathLabel_of_below ⟨segments, hsegments⟩]
  rw [← hsegments] at hslash ⊢
  cases hlast : segments.getLast? with
  | none =>
    rw [List.getLast?_eq_none_iff.mp hlast] at hslash
    exact absurd rfl hslash
  | some c =>
    have hc : c ≠ '/' := by
      rintro rfl
      rw [List.getLast?_append, hlast] at hslash
      exact hslash rfl
    exact ⟨segments, c, hc, String.toList_ofList, hlast⟩

lemma pathLabel_of_isSearchLabel {label : String} (h : IsSearchLabel label) :
    pathLabel label = label := by
  obtain ⟨segments, c, hc, hlabel, hlast⟩ := h
  have hkept : dropSlashes label = label.toList := by
    apply dropSlashes_eq_toList
    rw [hlabel, List.getLast?_append, hlast]
    exact fun heq => hc (Option.some.inj heq)
  have hbelow : searchRoot <+: dropSlashes label := ⟨segments, by rw [hkept, hlabel]⟩
  rw [pathLabel_of_below hbelow, hkept, String.ofList_toList]

lemma exists_pathLabel_iff (label : String) :
    (∃ path, pathLabel path = label) ↔ label ∈ sharedLabels ∨ IsSearchLabel label := by
  constructor
  · rintro ⟨path, rfl⟩
    by_cases hbelow : searchRoot <+: dropSlashes path
    · exact .inr (isSearchLabel_pathLabel hbelow)
    · exact .inl (pathLabel_mem_sharedLabels hbelow)
  · rintro (hshared | hsearch)
    · refine ⟨label, ?_⟩
      revert label
      decide
    · exact ⟨label, pathLabel_of_isSearchLabel hsearch⟩

/-- A path of one segment below the root of searches. -/
def longPath (n : Nat) : String := String.ofList (searchRoot ++ List.replicate (n + 1) 'x')

lemma pathLabel_longPath (n : Nat) : pathLabel (longPath n) = longPath n := by
  refine pathLabel_of_isSearchLabel ⟨List.replicate (n + 1) 'x', 'x', by decide,
    String.toList_ofList, ?_⟩
  rw [List.getLast?_replicate, if_neg (Nat.succ_ne_zero n)]

lemma longPath_injective : Function.Injective longPath := by
  intro n n' h
  have hlength := congrArg (·.toList.length) h
  simp only [longPath, String.toList_ofList, List.length_append, List.length_replicate] at hlength
  omega

lemma exists_longPath_notMem (labels : Finset String) : ∃ n, pathLabel (longPath n) ∉ labels := by
  by_contra hall
  have hmem (n : Nat) : longPath n ∈ (labels : Set String) := by
    by_contra hnot
    rw [← pathLabel_longPath] at hnot
    exact hall ⟨n, hnot⟩
  exact Set.infinite_of_injective_forall_mem longPath_injective hmem labels.finite_toSet

/-! ## Labels in the registry -/

namespace Registry

/-- The routes of the samples, for each family of request metrics. -/
def routeKeys (r : Registry) : List (List RouteLabels) :=
  [r.requestSeconds.map Prod.fst, r.inFlight.map Prod.fst, r.requests.map (·.1.route)]

namespace Tallies

variable {r : Registry} {hash : LabelHash} {answered : List RequestLabels}

lemma mem_routes_of_mem_routeKeys (h : r.Tallies hash answered) {keys : List RouteLabels}
    (hkeys : keys ∈ r.routeKeys) {k : RouteLabels} (hk : k ∈ keys) :
    k ∈ answered.map RequestLabels.route := by
  simp only [routeKeys, List.mem_cons, List.not_mem_nil, or_false] at hkeys
  rcases hkeys with rfl | rfl | rfl
  · obtain ⟨sample, hsample, rfl⟩ := List.mem_map.mp hk
    exact h.seconds.within sample hsample
  · obtain ⟨sample, hsample, rfl⟩ := List.mem_map.mp hk
    exact h.inFlight.within sample hsample
  · obtain ⟨sample, hsample, rfl⟩ := List.mem_map.mp hk
    exact List.mem_map_of_mem (h.requests.within sample hsample)

/-- Labels that do not collide with others have samples of their own. -/
lemma mem_routeKeys_of_mem_routes (h : r.Tallies hash answered)
    (hlabels : hash.NoCollision answered)
    (hroutes : hash.NoCollision (answered.map RequestLabels.route)) {keys : List RouteLabels}
    (hkeys : keys ∈ r.routeKeys) {k : RouteLabels} (hk : k ∈ answered.map RequestLabels.route) :
    k ∈ keys := by
  have hapart := hroutes.tellsApart_routes h.readable_routes
  simp only [routeKeys, List.mem_cons, List.not_mem_nil, or_false] at hkeys
  rcases hkeys with rfl | rfl | rfl
  · exact (h.seconds.mem_keys_iff hapart).mpr hk
  · exact (h.inFlight.mem_keys_iff hapart).mpr hk
  · obtain ⟨l, hl, rfl⟩ := List.mem_map.mp hk
    have hmem := (h.requests.mem_keys_iff (hlabels.tellsApart_requests h.readable)).mpr hl
    obtain ⟨sample, hsample, rfl⟩ := List.mem_map.mp hmem
    exact List.mem_map.mpr ⟨sample, hsample, rfl⟩

end Tallies

end Registry

/-! ## Labels in the exposition -/

/-- The names of the lines about requests. -/
def requestNames : List String :=
  Registry.histogramNames "catalog_http_request_duration_seconds" ++
    ["catalog_http_requests_in_flight", "catalog_http_requests_total"]

namespace Registry

lemma path_mem_labels_iff {k : RouteLabels} {label : String} :
    ("path", label) ∈ Labelled.labels k ↔ k.path = label := by
  simp [Labelled.labels, eq_comm]

lemma path_mem_requestLabels_iff {k : RequestLabels} {label : String} :
    ("path", label) ∈ Labelled.labels k ↔ k.route.path = label := by
  simp [Labelled.labels, eq_comm]

lemma exists_line_iff {r : Registry} {names : List String} {family : List SampleLine}
    (hfamily : (names, family) ∈ r.families) {name : String} (hname : name ∈ names)
    (p : SampleLine → Prop) :
    (∃ l ∈ r.lines, l.name = name ∧ p l) ↔ ∃ l ∈ family, l.name = name ∧ p l := by
  refine exists_congr fun l => and_congr_left fun h => ?_
  exact mem_lines_iff hfamily (h.1 ▸ hname)

/-- Each line about requests shows the paths of one family. -/
lemma exists_routeKeys (r : Registry) {name : String} (hname : name ∈ requestNames)
    (label : String) :
    ∃ keys ∈ r.routeKeys, ((∃ l ∈ r.lines, l.name = name ∧ ("path", label) ∈ l.labels) ↔
      ∃ k ∈ keys, k.path = label) := by
  unfold routeKeys
  rcases List.mem_append.mp hname with hseconds | hnumber
  · refine ⟨_, List.mem_cons_self, ?_⟩
    rw [Registry.exists_line_iff r.requestSeconds_mem_families hseconds,
      exists_histogramLine_iff (show "path" ≠ "le" by decide) hseconds]
    simp only [path_mem_labels_iff]
  · simp only [List.mem_cons, List.not_mem_nil, or_false] at hnumber
    rcases hnumber with rfl | rfl
    · refine ⟨_, List.mem_cons_of_mem _ List.mem_cons_self, ?_⟩
      simp only [Registry.exists_line_iff r.inFlight_mem_families (List.mem_singleton_self _),
        exists_numberLine_iff, path_mem_labels_iff]
    · refine ⟨_, List.mem_cons_of_mem _ (List.mem_cons_of_mem _ List.mem_cons_self), ?_⟩
      simp only [Registry.exists_line_iff r.requests_mem_families (List.mem_singleton_self _),
        exists_numberLine_iff, path_mem_requestLabels_iff, List.mem_map, exists_exists_and_eq_and]

namespace Tallies

variable {r : Registry} {hash : LabelHash} {answered : List RequestLabels} {name : String}

lemma exists_route_of_line (h : r.Tallies hash answered) (hname : name ∈ requestNames)
    {label : String} (hline : ∃ l ∈ r.lines, l.name = name ∧ ("path", label) ∈ l.labels) :
    ∃ k ∈ answered.map RequestLabels.route, k.path = label := by
  obtain ⟨keys, hkeys, hiff⟩ := r.exists_routeKeys hname label
  obtain ⟨k, hk, hpath⟩ := hiff.mp hline
  exact ⟨k, h.mem_routes_of_mem_routeKeys hkeys hk, hpath⟩

lemma exists_line_of_route (h : r.Tallies hash answered) (hlabels : hash.NoCollision answered)
    (hroutes : hash.NoCollision (answered.map RequestLabels.route)) (hname : name ∈ requestNames)
    {k : RouteLabels} (hk : k ∈ answered.map RequestLabels.route) :
    ∃ l ∈ r.lines, l.name = name ∧ ("path", k.path) ∈ l.labels := by
  obtain ⟨keys, hkeys, hiff⟩ := r.exists_routeKeys hname k.path
  exact hiff.mpr ⟨k, h.mem_routeKeys_of_mem_routes hlabels hroutes hkeys hk, rfl⟩

end Tallies

end Registry

lemma exists_answeredLabels_iff {visits : List Visit} {exchanges : List Exchange}
    (h : exchanges.map Exchange.request = visits.map Visit.request) (label : String) :
    (∃ k ∈ (answeredLabels exchanges).map RequestLabels.route, k.path = label) ↔
      ∃ v ∈ visits, v.request.method ≠ "OPTIONS" ∧ pathLabel v.request.uri.path = label := by
  have hvisits : (∃ x ∈ exchanges, x.request.method ≠ "OPTIONS" ∧
      pathLabel x.request.uri.path = label) ↔
        ∃ v ∈ visits, v.request.method ≠ "OPTIONS" ∧ pathLabel v.request.uri.path = label := by
    have hboth : (∃ r ∈ exchanges.map Exchange.request, r.method ≠ "OPTIONS" ∧
        pathLabel r.uri.path = label) ↔ ∃ r ∈ visits.map Visit.request, r.method ≠ "OPTIONS" ∧
          pathLabel r.uri.path = label := by rw [h]
    simpa using hboth
  rw [← hvisits]
  unfold answeredLabels
  constructor
  · rintro ⟨k, hk, hlabel⟩
    obtain ⟨l, hl, rfl⟩ := List.mem_map.mp hk
    obtain ⟨x, hx, rfl⟩ := List.mem_map.mp hl
    obtain ⟨hx, hmethod⟩ := List.mem_filter.mp hx
    exact ⟨x, hx, of_decide_eq_true hmethod, hlabel⟩
  · rintro ⟨x, hx, hmethod, hlabel⟩
    exact ⟨x.labels.route, List.mem_map_of_mem (List.mem_map_of_mem
      (List.mem_filter.mpr ⟨hx, decide_eq_true hmethod⟩)), hlabel⟩

/-- Whatever requests come one after the other, and whatever the hash of labels, the families of
request metrics show for paths only labels of those asked for by requests other than for OPTIONS.
Where the labels that occurred do not collide, each family shows them all. Any path below the root
of searches that does not end in a slash is such a label, and so are four others, but nothing
else. -/
theorem path_labels_follow_requests (app : Application) (hash : LabelHash) (visits : List Visit)
    (sent : Log) (h : ∀ v ∈ visits, Headers.isToken v.request.method = true) :
    let (exchanges, after) := (app.converse visits).run { sent, metrics := { hash } }
    let labels := answeredLabels exchanges
    let lines := after.metrics.lines
    (∀ name ∈ requestNames, ∀ l ∈ lines, l.name = name → ∀ label, ("path", label) ∈ l.labels →
      ∃ v ∈ visits, v.request.method ≠ "OPTIONS" ∧ pathLabel v.request.uri.path = label) ∧
    (hash.NoCollision labels → hash.NoCollision (labels.map RequestLabels.route) →
      ∀ name ∈ requestNames, ∀ v ∈ visits, v.request.method ≠ "OPTIONS" →
        ∃ l ∈ lines, l.name = name ∧ ("path", pathLabel v.request.uri.path) ∈ l.labels) ∧
    ∀ label, (∃ path, pathLabel path = label) ↔ label ∈ sharedLabels ∨ IsSearchLabel label := by
  rcases hrun : (app.converse visits).run { sent, metrics := { hash } } with ⟨exchanges, after⟩
  obtain ⟨hrequests, htally⟩ := app.tallies_converse h hrun (Registry.tallies_empty hash)
  refine ⟨fun name hname l hl hbears label hlabel => ?_,
    fun hlabels hroutes name hname v hv hmethod => ?_, exists_pathLabel_iff⟩
  · exact (exists_answeredLabels_iff hrequests label).mp
      (htally.exists_route_of_line hname ⟨l, hl, hbears, hlabel⟩)
  · obtain ⟨k, hk, hpath⟩ := (exists_answeredLabels_iff hrequests _).mpr ⟨v, hv, hmethod, rfl⟩
    rw [← hpath]
    exact htally.exists_line_of_route hlabels hroutes hname hk

/-- Requests for two paths without an endpoint below the root of searches, and for two others. -/
theorem path_labels_follow_requests_unknown :
    let app : Application := ⟨.ofSettings {} 30, ⟨fun _ => none, fun _ _ => .rows []⟩,
      ⟨[]⟩, 1048576, "catalog-search", fun _ => true⟩
    let visit (path : String) : Visit := ⟨⟨"GET", ⟨path, none⟩, [], []⟩, ⟨"a48e1f2c", 0, 0⟩, app.db⟩
    let visits := ["/api/v1/advsearch/x1", "/api/v1/advsearch/x2/", "/x1", "/x2"].map visit
    let lines := ((app.converse visits).run {}).2.metrics.lines
    (∀ v ∈ visits, Headers.isToken v.request.method = true) ∧
      ∀ label ∈ ["/api/v1/advsearch/x1", "/api/v1/advsearch/x2", "/other"],
        ∃ l ∈ lines, l.name = "catalog_http_requests_total" ∧ ("path", label) ∈ l.labels := by
  intro app visit visits lines
  have htokens : ∀ v ∈ visits, Headers.isToken v.request.method = true := by decide
  obtain ⟨-, hlines, -⟩ := path_labels_follow_requests app .fnv1a visits [] htokens
  have hshown := hlines (by decide +kernel) (by decide +kernel) "catalog_http_requests_total"
    (by decide)
  have hasked : ∀ label ∈ ["/api/v1/advsearch/x1", "/api/v1/advsearch/x2", "/other"],
      ∃ v ∈ visits, v.request.method ≠ "OPTIONS" ∧ pathLabel v.request.uri.path = label := by
    decide
  refine ⟨htokens, fun label hlabel => ?_⟩
  obtain ⟨v, hv, hmethod, rfl⟩ := hasked label hlabel
  exact hshown v hv hmethod

/-- There is no finite set of all labels, nor one of all that requests can leave behind. -/
theorem path_labels_unbounded :
    (¬ ∃ labels : Finset String, ∀ path, pathLabel path ∈ labels) ∧
    ¬ ∃ labels : Finset String, ∀ (app : Application) (visits : List Visit),
      (∀ v ∈ visits, Headers.isToken v.request.method = true) → ∀ name ∈ requestNames,
        ∀ l ∈ ((app.converse visits).run {}).2.metrics.lines, l.name = name →
          ∀ label, ("path", label) ∈ l.labels → label ∈ labels := by
  constructor
  · rintro ⟨labels, hlabels⟩
    obtain ⟨n, hn⟩ := exists_longPath_notMem labels
    exact hn (hlabels _)
  · rintro ⟨labels, hlabels⟩
    obtain ⟨n, hn⟩ := exists_longPath_notMem labels
    let app : Application := ⟨.ofSettings {} 30, ⟨fun _ => none, fun _ _ => .rows []⟩,
      ⟨[]⟩, 1048576, "catalog-search", fun _ => true⟩
    let v : Visit := ⟨⟨"GET", ⟨longPath n, none⟩, [], []⟩, ⟨"a48e1f2c", 0, 0⟩, app.db⟩
    have hmethod : v.request.method = "GET" := rfl
    have htokens : ∀ v' ∈ [v], Headers.isToken v'.request.method = true := by
      intro v' hv
      rw [List.mem_singleton.mp hv, hmethod]
      decide
    rcases hrun : (app.converse [v]).run {} with ⟨exchanges, after⟩
    obtain ⟨hrequests, htally⟩ := app.tallies_converse htokens hrun (Registry.tallies_empty .fnv1a)
    obtain ⟨x, rfl, hx⟩ := List.map_eq_singleton_iff.mp hrequests
    have hanswered : answeredLabels [x] = [x.labels] := by
      rw [answeredLabels, List.filter_cons_of_pos (by rw [hx, hmethod]; decide)]
      rfl
    rw [List.nil_append, hanswered] at htally
    have hname : "catalog_http_requests_total" ∈ requestNames := by decide
    obtain ⟨l, hl, hbears, hlabel⟩ := htally.exists_line_of_route
      (LabelHash.noCollision_singleton _ _) (LabelHash.noCollision_singleton _ _) hname
      List.mem_cons_self
    have hpath : x.labels.route.path = pathLabel (longPath n) := by
      change pathLabel x.request.uri.path = pathLabel v.request.uri.path
      rw [hx]
    have hafter : ((app.converse [v]).run {}).2.metrics.lines = after.metrics.lines := by rw [hrun]
    rw [← hafter] at hl
    rw [hpath] at hlabel
    exact hn (hlabels app [v] htokens _ hname l hl hbears _ hlabel)

end FacetSearch
