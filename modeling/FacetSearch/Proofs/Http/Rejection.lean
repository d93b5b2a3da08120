import FacetSearch.Proofs.Http.Conversation
import FacetSearch.Proofs.Http.SearchForms
import FacetSearch.Proofs.Metrics.Exposition
import FacetSearch.Proofs.Options.Absent

/-!
# Requests that ask for nothing

A request that is turned away, or that only asks which methods there are, leaves no trace but in the
metrics of requests: nothing is sent to the database, no sample of a search changes, and every later
request is answered as it would have been. A search without options is answered with an empty page,
whatever the database does, and sends nothing either.
-/

namespace FacetSearch

def SampleLine.isOfSearches (l : SampleLine) : Bool :=
  "catalog_search_".toList.isPrefixOf l.name.toList

namespace Registry

/-- The lines of the exposition that tell of searches. -/
def searchLines (r : Registry) : List SampleLine := r.lines.filter SampleLine.isOfSearches

lemma filter_isOfSearches {lines : List SampleLine} {names : List String}
    (h : ∀ l ∈ lines, l.name ∈ names)
    (hnames : ∀ name ∈ names, ¬ "catalog_search_".toList.isPrefixOf name.toList = true) :
    lines.filter SampleLine.isOfSearches = [] := by
  rw [List.filter_eq_nil_iff]
  exact fun l hl => hnames l.name (h l hl)

/-- The metrics of requests tell nothing of searches. -/
lemma searchLines_congr {a b : Registry} (hsearches : a.searches = b.searches)
    (hseconds : a.searchSeconds = b.searchSeconds) (hmatches : a.searchMatches = b.searchMatches) :
    a.searchLines = b.searchLines := by
  have htotal (r : Registry) :
      (numberLines "catalog_http_requests_total" r.requests).filter SampleLine.isOfSearches = [] :=
    filter_isOfSearches (fun _ => name_of_mem_numberLines) (by decide)
  have hinFlight (r : Registry) :
      (numberLines "catalog_http_requests_in_flight" r.inFlight).filter
        SampleLine.isOfSearches = [] :=
    filter_isOfSearches (fun _ => name_of_mem_numberLines) (by decide)
  have hduration (r : Registry) :
      (histogramLines "catalog_http_request_duration_seconds" secondsBounds
        r.requestSeconds).filter SampleLine.isOfSearches = [] :=
    filter_isOfSearches (fun _ => name_of_mem_histogramLines) (by decide)
  unfold searchLines lines
  simp only [List.filter_append, htotal, hinFlight, hduration, hsearches, hseconds, hmatches]

end Registry

/-- The request is a search of this domain without options. -/
inductive Application.SearchesWithoutOptions (app : Application) (r : Request) (forFlows : Bool) :
    Prop where
  | byBody (method : r.method = "POST") (path : r.uri.path = bodyPath forFlows)
    (size : r.body.length ≤ app.maxBodySize) (body : r.body.HoldNoOptions)
  | byQuery {text : Option String} (method : r.method = "GET")
    (path : r.uri.path = queryPath forFlows)
    (given : Form.single? (parameters r) "searchOpts" = some text)
    (options : (Bytes.ofText (text.getD "")).HoldNoOptions)

namespace Application

variable {app : Application} {m : Moment} {r : Request} {st : ServiceState}

lemma dispatch_bodyPath {forFlows : Bool} (hmethod : r.method = "POST")
    (hpath : r.uri.path = bodyPath forFlows) : app.dispatch r = app.dispatchBody forFlows r := by
  cases forFlows with
  | true =>
    exact dispatch_eq_dispatchAt (e := .postFlows) (by rw [hpath]; rfl) (by rw [hmethod]; rfl)
  | false =>
    exact dispatch_eq_dispatchAt (e := .postDatasets) (by rw [hpath]; rfl) (by rw [hmethod]; rfl)

lemma dispatch_queryPath {forFlows : Bool} (hmethod : r.method = "GET")
    (hpath : r.uri.path = queryPath forFlows) : app.dispatch r = dispatchQuery forFlows r := by
  cases forFlows with
  | true =>
    exact dispatch_eq_dispatchAt (e := .getFlows) (by rw [hpath]; rfl) (by rw [hmethod]; rfl)
  | false =>
    exact dispatch_eq_dispatchAt (e := .getDatasets) (by rw [hpath]; rfl) (by rw [hmethod]; rfl)

lemma SearchesWithoutOptions.dispatch {forFlows : Bool} {page : PageRequest}
    (h : app.SearchesWithoutOptions r forFlows) (hpage : pageRequest? (parameters r) = some page) :
    ∃ options, app.dispatch r = .call (.search forFlows options page) ∧
      ∀ members, options ≠ .object members := by
  cases h with
  | byBody hmethod hpath hsize hbody =>
    refine ⟨_, ?_, hbody.options_ne_object⟩
    rw [dispatch_bodyPath hmethod hpath, dispatchBody, hpage]
    exact if_neg (Nat.not_lt.mpr hsize)
  | byQuery hmethod hpath hgiven hoptions =>
    refine ⟨_, ?_, hoptions.options_ne_object⟩
    rw [dispatch_queryPath hmethod hpath, dispatchQuery, hpage, hgiven]

lemma run_outcome_of_ne_object (app : Application) (m : Moment) {options : Json}
    (h : ∀ members, options ≠ .object members) (forFlows : Bool) (page : PageRequest)
    (st : ServiceState) :
    (((Call.search forFlows options page).outcome app m).run st).1 =
        .ok (emptyPage forFlows (page.window app.engine.pageSizes)) ∧
      (((Call.search forFlows options page).outcome app m).run st).2.sent = st.sent := by
  cases forFlows with
  | true =>
    unfold Call.outcome
    rw [StateT.run_bind, SearchEngine.run_searchFlows_of_ne_object _ _ _ _ _ h]
    exact ⟨rfl, rfl⟩
  | false =>
    unfold Call.outcome
    rw [StateT.run_bind, SearchEngine.run_searchDatasets_of_ne_object _ _ _ _ _ h]
    exact ⟨rfl, rfl⟩

/-- A request that is turned away changes nothing but the metrics of requests. -/
lemma run_respond_rejected (h : 400 ≤ ((app.respond m r).run st).1.status ∧
      ((app.respond m r).run st).1.status < 500 ∨ r.method = "OPTIONS") :
    ((app.respond m r).run st).2.SameSearches st := by
  by_cases hoptions : r.method = "OPTIONS"
  · rw [run_respond_options _ _ _ hoptions]
    exact ⟨rfl, rfl, rfl, rfl, rfl⟩
  · have hstatus := h.resolve_right hoptions
    rw [run_respond _ _ _ hoptions] at hstatus ⊢
    have hroute : 400 ≤ ((app.route m r).run (entered r st)).1.status ∧
        ((app.route m r).run (entered r st)).1.status < 500 := by
      have hdressed := app.dressed_status m (r := r) ((app.route m r).run (entered r st)).1
      rw [← hdressed]
      exact hstatus
    obtain ⟨response, hrejected⟩ := (app.isClientError_iff_rejected m r _).mp hroute
    rw [route_eq_answer, hrejected]
    exact ⟨rfl, rfl, rfl, rfl, rfl⟩

lemma run_respond_withoutOptions {forFlows : Bool} {page : PageRequest}
    (hpage : pageRequest? (parameters r) = some page) (h : app.SearchesWithoutOptions r forFlows) :
    ((app.respond m r).run st).1.status = 200 ∧
      ((app.respond m r).run st).1.body =
        .json (emptyPage forFlows (page.window app.engine.pageSizes)) ∧
      ((app.respond m r).run st).2.sent = st.sent := by
  have hmethod : r.method ≠ "HEAD" := by
    cases h with
    | byBody hmethod => rw [hmethod]; decide
    | byQuery hmethod => rw [hmethod]; decide
  obtain ⟨options, hdispatch, hoptions⟩ := h.dispatch hpage
  obtain ⟨houtcome, hsent⟩ := app.run_outcome_of_ne_object m hoptions forFlows page
    (entered r st)
  rcases hrun : (Call.outcome app m (.search forFlows options page)).run (entered r st) with
    ⟨outcome, after⟩
  rw [hrun] at houtcome hsent
  obtain rfl : outcome = _ := houtcome
  rw [run_respond_call app m st hdispatch, hrun]
  refine ⟨?_, ?_, hsent⟩
  · rw [dressed_status]
    rfl
  · rw [dressed_body _ _ hmethod]
    rfl

/-- A request that is turned away with a status from 400 to 499, or whose method is OPTIONS, sends
nothing, changes no sample of a search, and leaves every later request its answers and its
commands. A search whose options are blank, malformed or not an object, with a page that can be read
and a body within the limit, gets an empty page with status 200 from whatever database, and sends
nothing. -/
theorem rejected_leaves_no_trace (app : Application) (m : Moment) (r : Request)
    (st : ServiceState) :
    let (response, after) := (app.respond m r).run st
    (400 ≤ response.status ∧ response.status < 500 ∨ r.method = "OPTIONS" →
      after.sent = st.sent ∧ after.metrics.searchLines = st.metrics.searchLines ∧
      ∀ visits : List Visit,
        let (exchanges, last) := (app.converse visits).run after
        let (exchanges', last') := (app.converse visits).run st
        List.Forall₂ Exchange.Alike exchanges exchanges' ∧ last.sent = last'.sent) ∧
    ∀ (forFlows : Bool) (page : PageRequest), pageRequest? (parameters r) = some page →
      app.SearchesWithoutOptions r forFlows →
      response.status = 200 ∧
        response.body = .json (emptyPage forFlows (page.window app.engine.pageSizes)) ∧
        after.sent = st.sent := by
  constructor
  · intro h
    have hsame := run_respond_rejected h
    refine ⟨hsame.sent, Registry.searchLines_congr hsame.searches hsame.searchSeconds
      hsame.searchMatches, fun visits => ?_⟩
    have hvisits : List.Forall₂ Visit.SameButMessages visits visits :=
      List.forall₂_same.mpr fun v _ => ⟨rfl, .refl v.db⟩
    exact app.relates_converse hvisits _ _ hsame.sent
  · intro forFlows page hpage h
    exact run_respond_withoutOptions hpage h

/-- A path that does not exist, and a blank body, when no connection can be had. -/
theorem rejected_leaves_no_trace_timedOut :
    let app : Application := ⟨.ofSettings {} 30, ⟨fun _ => some .timedOut, fun _ _ => .rows []⟩,
      ⟨[]⟩, 1048576, "catalog-search", fun _ => true⟩
    let m : Moment := ⟨"a48e1f2c", 0, 0⟩
    let unknown : Request := ⟨"GET", ⟨"/api/v1/nowhere", none⟩, [], []⟩
    let blank : Request :=
      ⟨"POST", ⟨"/api/v1/advsearch/flows", none⟩, [], .ofText "  \n"⟩
    ((app.respond m unknown).run {}).1.status = 404 ∧
      ((app.respond m unknown).run {}).2.sent = [] ∧
      pageRequest? (parameters blank) = some {} ∧ app.SearchesWithoutOptions blank true ∧
      ((app.respond m blank).run {}).1.status = 200 ∧
      ((app.respond m blank).run {}).2.sent = [] := by
  intro app m unknown blank
  have hstatus : ((app.respond m unknown).run {}).1.status = 404 := rfl
  have hrange : 400 ≤ ((app.respond m unknown).run {}).1.status ∧
      ((app.respond m unknown).run {}).1.status < 500 := by
    rw [hstatus]
    decide
  have hpage : pageRequest? (parameters blank) = some {} := rfl
  have hblank : app.SearchesWithoutOptions blank true :=
    .byBody rfl (by decide) (by decide) (.blank (Bytes.text?_ofText "  \n") (by decide))
  obtain ⟨hunknown, -⟩ := rejected_leaves_no_trace app m unknown {}
  obtain ⟨-, hsearch⟩ := rejected_leaves_no_trace app m blank {}
  obtain ⟨hfound, -, hsent⟩ := hsearch true {} hpage hblank
  exact ⟨hstatus, (hunknown (.inl hrange)).1, hpage, hblank, hfound, hsent⟩

end Application

end FacetSearch
