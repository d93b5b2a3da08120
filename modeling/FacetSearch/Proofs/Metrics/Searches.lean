import FacetSearch.Proofs.Database.Observation
import FacetSearch.Proofs.Metrics.Samples

/-!
# Conservation of search metrics

Every search is counted once under the labels of its outcome, timed once, and if it gives a page,
its matches are recorded once. So the families of search metrics agree with each other and with the
searches that were made.
-/

namespace FacetSearch

open SearchEngine

/-- A search to be made, with the database as it behaves then and the time that it takes. -/
structure SearchCall where
  forFlows : Bool
  db : Database
  options : Json
  window : PageWindow
  seconds : Float

namespace SearchCall

/-- Makes the search, and tells whether it gives a page. -/
def run (e : SearchEngine) (c : SearchCall) : Service Bool :=
  if c.forFlows then do
    return (← e.searchFlows c.db c.options c.window c.seconds).isOk
  else do
    return (← e.searchDatasets c.db c.options c.window c.seconds).isOk

def domain (c : SearchCall) : String := if c.forFlows then flowDomain else datasetDomain

/-- The way in which a search with these members of its options is carried out. -/
def path (e : SearchEngine) (c : SearchCall) (members : List (String × Json)) : String :=
  if c.forFlows then
    if (FlowFilter.ofMembers (.object members)).searchesJobs then "job" else "flow"
  else ((DatasetFilter.ofMembers (.object members)).plan c.window e.ranking).label

/-- The outcome of a search that gives a page or does not. -/
def outcome (e : SearchEngine) (c : SearchCall) (found : Bool) : OutcomeLabels :=
  match c.options with
  | .object members => ⟨⟨c.domain, c.path e members⟩, if found then "success" else "error"⟩
  | _ => ⟨⟨c.domain, "none"⟩, "empty"⟩

end SearchCall

/-! ## The labels that occur -/

namespace LabelHash

variable (hash : LabelHash)

lemma tellsApart_searchDomains : hash.TellsApart searchDomains :=
  tellsApart_of_nodup hash.domains_apart

lemma tellsApart_searchKinds : hash.TellsApart searchKinds := tellsApart_of_nodup hash.kinds_apart

lemma tellsApart_searchOutcomes : hash.TellsApart searchOutcomes :=
  tellsApart_of_nodup hash.outcomes_apart

end LabelHash

lemma SearchCall.outcome_mem (e : SearchEngine) (c : SearchCall) (found : Bool) :
    c.outcome e found ∈ searchOutcomes := by
  have hmem {search : SearchLabels} {status : String} (hsearch : search ∈ searchKinds)
      (hstatus : status ∈ ["empty", "success", "error"]) : ⟨search, status⟩ ∈ searchOutcomes :=
    List.mem_flatMap.mpr ⟨search, hsearch, List.mem_map.mpr ⟨status, hstatus, rfl⟩⟩
  have hnone : ⟨c.domain, "none"⟩ ∈ searchKinds := by
    unfold domain
    split <;> decide
  have hplan (plan : DatasetPlan) : ⟨datasetDomain, plan.label⟩ ∈ searchKinds := by
    cases plan <;> simp [DatasetPlan.label, searchKinds]
  have hpath (members : List (String × Json)) : ⟨c.domain, c.path e members⟩ ∈ searchKinds := by
    unfold domain path
    split
    · split <;> decide
    · exact hplan _
  unfold outcome
  split
  · refine hmem (hpath _) ?_
    split <;> decide
  · exact hmem hnone (by decide)

/-! ## What one search changes -/

/-- What is recorded about a search with this outcome, and with so many matches if it succeeds. -/
def Registry.recordOutcome (outcome : OutcomeLabels) (seconds : Float) (count : Int)
    (r : Registry) : Registry :=
  let timed := r.recordSearch outcome.search outcome.status seconds
  if outcome.status = "success" then timed.recordMatches outcome.search.domain count else timed

section Run

variable (e : SearchEngine)

lemma exists_recordOutcome_observed {α : Type} (search : SearchLabels) (seconds : Float)
    (session : Session (ResultPage α)) (st : ServiceState) :
    ∃ count, ((observed search seconds session).run st).2.metrics =
      st.metrics.recordOutcome
        ⟨search, if ((observed search seconds session).run st).1.isOk then "success" else "error"⟩
        seconds count := by
  rcases hrun : session.run st.sent with ⟨fault | page, sent⟩
  · rw [run_observed_error hrun]
    exact ⟨0, rfl⟩
  · rw [run_observed_ok hrun]
    exact ⟨page.count, rfl⟩

lemma SearchCall.exists_recordOutcome (c : SearchCall) (st : ServiceState) :
    ∃ count, ((c.run e).run st).2.metrics =
      st.metrics.recordOutcome (c.outcome e ((c.run e).run st).1) c.seconds count := by
  obtain ⟨forFlows, db, options, w, seconds⟩ := c
  cases forFlows with
  | true =>
    cases options with
    | object members =>
      exact exists_recordOutcome_observed ⟨flowDomain,
        if (FlowFilter.ofMembers (.object members)).searchesJobs then "job" else "flow"⟩ seconds
        (e.runFlows db (FlowFilter.ofMembers (.object members)) w) st
    | _ => exact ⟨0, rfl⟩
  | false =>
    cases options with
    | object members =>
      let plan := (DatasetFilter.ofMembers (.object members)).plan w e.ranking
      exact exists_recordOutcome_observed ⟨datasetDomain, plan.label⟩ seconds
        (e.runDatasets db plan w) st
    | _ => exact ⟨0, rfl⟩

end Run

/-! ## What all searches have changed -/

/-- The search metrics count these outcomes. -/
structure Registry.Accounts (r : Registry) (outcomes : List OutcomeLabels) : Prop where
  known : ∀ l ∈ outcomes, l ∈ searchOutcomes
  searches : r.searches.Counts r.hash id outcomes
  seconds : r.searchSeconds.Counts r.hash Histogram.count (outcomes.map OutcomeLabels.search)
  found : r.searchMatches.Counts r.hash Histogram.count
    ((outcomes.filter (·.status = "success")).map (·.search.domain))

lemma Registry.accounts_empty : Registry.Accounts {} [] where
  known _ h := nomatch h
  searches := .nil
  seconds := .nil
  found := .nil

lemma mem_of_mem_searchOutcomes {l : OutcomeLabels} (h : l ∈ searchOutcomes) :
    l.search ∈ searchKinds ∧ l.search.domain ∈ searchDomains := by
  revert l
  decide

namespace Registry.Accounts

variable {r : Registry} {outcomes : List OutcomeLabels} {l : OutcomeLabels}

lemma recordOutcome (h : r.Accounts outcomes) (hl : l ∈ searchOutcomes) (seconds : Float)
    (count : Int) : (r.recordOutcome l seconds count).Accounts (outcomes ++ [l]) := by
  have hknown : ∀ k ∈ outcomes ++ [l], k ∈ searchOutcomes := by
    rw [List.forall_mem_append]
    exact ⟨h.known, List.forall_mem_singleton.mpr hl⟩
  have hsearches := h.searches.adjust (f := (· + 1)) l 0 rfl fun _ => rfl
  have hseconds := h.seconds.adjust (f := .observe secondsBounds seconds)
    l.search (.empty secondsBounds) rfl fun _ => rfl
  rw [← List.map_singleton, ← List.map_append] at hseconds
  by_cases hsuccess : l.status = "success"
  · have hmatches := h.found.adjust
      (f := .observe matchesBounds (Float.ofNat count.toNat)) l.search.domain
      (.empty matchesBounds) rfl fun _ => rfl
    have hdone : ((outcomes ++ [l]).filter (·.status = "success")).map (·.search.domain) =
        (outcomes.filter (·.status = "success")).map (·.search.domain) ++ [l.search.domain] := by
      simp [hsuccess]
    rw [← hdone] at hmatches
    rw [Registry.recordOutcome, if_pos hsuccess]
    exact ⟨hknown, hsearches, hseconds, hmatches⟩
  · have hdone : ((outcomes ++ [l]).filter (·.status = "success")).map (·.search.domain) =
        (outcomes.filter (·.status = "success")).map (·.search.domain) := by
      simp [hsuccess]
    have hmatches := h.found
    rw [← hdone] at hmatches
    rw [Registry.recordOutcome, if_neg hsuccess]
    exact ⟨hknown, hsearches, hseconds, hmatches⟩

lemma known_kinds (h : r.Accounts outcomes) :
    ∀ search ∈ outcomes.map OutcomeLabels.search, search ∈ searchKinds := by
  rw [List.forall_mem_map]
  exact fun l hl => (mem_of_mem_searchOutcomes (h.known l hl)).1

lemma known_domains (h : r.Accounts outcomes) :
    ∀ domain ∈ (outcomes.filter (·.status = "success")).map (·.search.domain),
      domain ∈ searchDomains := by
  rw [List.forall_mem_map]
  exact fun l hl => (mem_of_mem_searchOutcomes (h.known l (List.mem_of_mem_filter hl))).2

/-- A run of searches adds their outcomes. -/
lemma run_searches (e : SearchEngine) (calls : List SearchCall) {st : ServiceState}
    (h : st.metrics.Accounts outcomes) :
    ((calls.mapM (SearchCall.run e)).run st).2.metrics.Accounts
        (outcomes ++ List.zipWith (SearchCall.outcome e) calls
          ((calls.mapM (SearchCall.run e)).run st).1) ∧
      ((calls.mapM (SearchCall.run e)).run st).1.length = calls.length := by
  induction calls generalizing st outcomes with
  | nil =>
    have hnone : (([] : List SearchCall).mapM (SearchCall.run e)).run st = ([], st) := rfl
    rw [hnone, List.zipWith_nil_left, List.append_nil]
    exact ⟨h, rfl⟩
  | cons c calls ih =>
    obtain ⟨count, hmetrics⟩ := c.exists_recordOutcome e st
    rcases hrun : (c.run e).run st with ⟨found, after⟩
    rw [hrun] at hmetrics
    have hafter : after.metrics.Accounts (outcomes ++ [c.outcome e found]) := by
      rw [hmetrics]
      exact h.recordOutcome (c.outcome_mem e found) c.seconds count
    obtain ⟨hrest, hlength⟩ := ih hafter
    have hcalls : ((c :: calls).mapM (SearchCall.run e)).run st =
        (found :: ((calls.mapM (SearchCall.run e)).run after).1,
          ((calls.mapM (SearchCall.run e)).run after).2) := by
      rw [List.mapM_cons, StateT.run_bind, hrun]
      rfl
    rw [hcalls]
    constructor
    · simpa using hrest
    · simpa using hlength

end Registry.Accounts

/-- Whatever searches are made one after the other, with whatever databases, the metrics account
for them: each label set holds as many searches as had this outcome, which is `empty` on the path
`none` for options that are no object, and for others `success` or `error` as a page came back or
not. All samples together are the searches made. As many durations are observed on a path as
searches are counted on it, and as many numbers of matches in a domain as successes are counted in
it. -/
theorem searches_conserved (e : SearchEngine) (calls : List SearchCall) (sent : Log) :
    let (found, after) := (calls.mapM (SearchCall.run e)).run { sent }
    let outcomes := List.zipWith (SearchCall.outcome e) calls found
    let r := after.metrics
    found.length = calls.length ∧
    (∀ l, r.searches.valueOf id l = outcomes.count l) ∧
    r.searches.sumOver id (fun _ => true) = calls.length ∧
    (∀ search, r.searchSeconds.valueOf Histogram.count search =
      r.searches.sumOver id (·.search = search)) ∧
    ∀ domain, r.searchMatches.valueOf Histogram.count domain =
      r.searches.sumOver id fun l => l.search.domain = domain ∧ l.status = "success" := by
  have hempty : ({ sent } : ServiceState).metrics.Accounts [] := Registry.accounts_empty
  obtain ⟨haccounts, hlength⟩ := hempty.run_searches e calls
  rcases hrun : (calls.mapM (SearchCall.run e)).run { sent } with ⟨found, after⟩
  rw [hrun] at hlength
  rw [hrun, List.nil_append] at haccounts
  let hash := after.metrics.hash
  have houtcomes := (hash.tellsApart_searchOutcomes).of_subset haccounts.known
  have hkinds := (hash.tellsApart_searchKinds).of_subset haccounts.known_kinds
  have hdomains := (hash.tellsApart_searchDomains).of_subset haccounts.known_domains
  refine ⟨hlength, haccounts.searches.valueOf_eq houtcomes, ?_, ?_, ?_⟩
  · rw [haccounts.searches.sumOver_true, List.length_zipWith, hlength, Nat.min_self]
  · intro search
    rw [haccounts.seconds.valueOf_eq hkinds, haccounts.searches.sumOver_eq houtcomes,
      List.count_eq_countP, List.countP_map]
    rfl
  · intro domain
    rw [haccounts.found.valueOf_eq hdomains, haccounts.searches.sumOver_eq houtcomes,
      List.count_eq_countP, List.countP_map, List.countP_filter]
    exact List.countP_congr fun l _ => by simp

end FacetSearch
