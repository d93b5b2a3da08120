import FacetSearch.Proofs.Http.Response

/-!
# What becomes of a request

The layers, the routes and the readers of parameters and bodies decide together whether a request is
turned away, calls a search or a lookup, or asks after the service itself. Its answer follows from
that decision. Only a request that is turned away has a status from 400 to 499.
-/

namespace FacetSearch

/-- What a request wants from the catalog. -/
inductive Call where
  | search (forFlows : Bool) (options : Json) (page : PageRequest)
  | lookup (l : Lookup)

/-- What becomes of a request. -/
inductive Dispatch where
  | rejected (response : Response)
  | call (c : Call)
  | health
  | metrics

inductive Dispatch.Possible (r : Request) : Dispatch → Prop where
  | rejected {response : Response} (h : response.status ∈ [400, 404, 405, 413]) :
    Possible r (.rejected response)
  | call (c : Call) : Possible r (.call c)
  | health : Possible r .health
  | metrics (h : r.uri.path = "/metrics") : Possible r .metrics

namespace Call

/-- How the search or lookup ends, with its result as it is shown. -/
def outcome (app : Application) (m : Moment) : Call → Service (Except Fault Json)
  | search true options page => do
    let found ← app.engine.searchFlows app.db options (page.window app.engine.pageSizes)
      m.searchSeconds
    return found.map (·.toJson FlowJob.toJson)
  | search false options page => do
    let found ← app.engine.searchDatasets app.db options (page.window app.engine.pageSizes)
      m.searchSeconds
    return found.map (·.toJson Dataset.toJson)
  | lookup l => do
    let found ← Service.ofSession (l.run app.validPattern app.db)
    return found.map Json.strings

end Call

namespace Application

variable {app : Application} {m : Moment} {r : Request} {st : ServiceState}

/-- The response to how a call ended. -/
def report (outcome : Except Fault Json) : Response := result id outcome

/-- A result can be encoded before it is reported. -/
lemma bind_result {α : Type} (encode : α → Json) (x : Service (Except Fault α)) :
    (do let found ← x; return result encode found) =
      (do return report (← (do let found ← x; return found.map encode)) : Service Response) := by
  have hresult : result encode = report ∘ Except.map encode := by
    funext found
    cases found with
    | ok a => rfl
    | error fault => rfl
  rw [hresult]
  rfl

def dispatchBody (app : Application) (forFlows : Bool) (r : Request) : Dispatch :=
  match pageRequest? (parameters r) with
  | none => .rejected badParameters
  | some page =>
    if app.maxBodySize < r.body.length then .rejected bodyTooLarge
    else .call (.search forFlows (options r.body) page)

def dispatchQuery (forFlows : Bool) (r : Request) : Dispatch :=
  match pageRequest? (parameters r), Form.single? (parameters r) "searchOpts" with
  | some page, some text => .call (.search forFlows (options (.ofText (text.getD ""))) page)
  | _, _ => .rejected badParameters

def dispatchAmong (name : String) (l : Option String → Lookup) (r : Request) : Dispatch :=
  match Form.single? (parameters r) name with
  | none => .rejected badParameters
  | some argument => .call (.lookup (l argument))

/-- What becomes of a request at its endpoint. -/
def dispatchAt (app : Application) (r : Request) : Endpoint → Dispatch
  | .health => .health
  | .metrics => .metrics
  | .postDatasets => app.dispatchBody false r
  | .postFlows => app.dispatchBody true r
  | .getDatasets => dispatchQuery false r
  | .getFlows => dispatchQuery true r
  | .sources => .call (.lookup .sources)
  | .scopes => .call (.lookup .scopes)
  | .tables => dispatchAmong "scopes" .tables r
  | .fields => dispatchAmong "tables" .fields r
  | .appCodes => .call (.lookup .appCodes)
  | .flowNames => dispatchAmong "apps" .flowNames r
  | .jobNames => .call (.lookup .jobNames)

/-- What becomes of a request, of any method but OPTIONS. -/
def dispatch (app : Application) (r : Request) : Dispatch :=
  match Endpoint.ofPath? r.uri.path with
  | none => .rejected (.empty 404)
  | some e =>
    if e.accepts r.method then app.dispatchAt r e
    else .rejected ((Response.empty 405).withHeader "allow" (.ofText e.allow))

def answer (app : Application) (m : Moment) : Dispatch → Service Response
  | .rejected response => return response
  | .call c => do return report (← c.outcome app m)
  | .health => app.health
  | .metrics => metrics

lemma searchFlows_eq_answer (options : Json) (page : PageRequest) :
    app.searchFlows m options page = app.answer m (.call (.search true options page)) :=
  bind_result _ _

lemma searchDatasets_eq_answer (options : Json) (page : PageRequest) :
    app.searchDatasets m options page = app.answer m (.call (.search false options page)) :=
  bind_result _ _

lemma lookup_eq_answer (l : Lookup) : app.lookup l = app.answer m (.call (.lookup l)) :=
  bind_result _ _

lemma searchByBody_eq_answer {search : Json → PageRequest → Service Response} {forFlows : Bool}
    (h : ∀ options page, search options page = app.answer m (.call (.search forFlows options page)))
    (r : Request) :
    app.searchByBody search r = app.answer m (app.dispatchBody forFlows r) := by
  unfold searchByBody dispatchBody
  cases pageRequest? (parameters r) with
  | none => rfl
  | some page =>
    by_cases hsize : app.maxBodySize < r.body.length
    · simp only [if_pos hsize]
      rfl
    · simp only [if_neg hsize]
      exact h _ page

lemma searchByQuery_eq_answer {search : Json → PageRequest → Service Response} {forFlows : Bool}
    (h : ∀ options page, search options page = app.answer m (.call (.search forFlows options page)))
    (r : Request) :
    searchByQuery search r = app.answer m (dispatchQuery forFlows r) := by
  unfold searchByQuery dispatchQuery
  cases pageRequest? (parameters r) with
  | none => rfl
  | some page =>
    cases Form.single? (parameters r) "searchOpts" with
    | none => rfl
    | some text => exact h _ page

lemma lookupAmong_eq_answer (name : String) (l : Option String → Lookup) (r : Request) :
    app.lookupAmong name l r = app.answer m (dispatchAmong name l r) := by
  unfold lookupAmong dispatchAmong
  cases Form.single? (parameters r) name with
  | none => rfl
  | some argument => exact lookup_eq_answer _

lemma run_eq_answer (e : Endpoint) : app.run m e r = app.answer m (app.dispatchAt r e) := by
  cases e with
  | health => rfl
  | metrics => rfl
  | postDatasets => exact searchByBody_eq_answer searchDatasets_eq_answer r
  | postFlows => exact searchByBody_eq_answer searchFlows_eq_answer r
  | getDatasets => exact searchByQuery_eq_answer searchDatasets_eq_answer r
  | getFlows => exact searchByQuery_eq_answer searchFlows_eq_answer r
  | tables => exact lookupAmong_eq_answer _ _ r
  | fields => exact lookupAmong_eq_answer _ _ r
  | flowNames => exact lookupAmong_eq_answer _ _ r
  | sources => exact lookup_eq_answer _
  | scopes => exact lookup_eq_answer _
  | appCodes => exact lookup_eq_answer _
  | jobNames => exact lookup_eq_answer _

/-- The answer to a request is the one to what becomes of it. -/
theorem route_eq_answer (app : Application) (m : Moment) (r : Request) :
    app.route m r = app.answer m (app.dispatch r) := by
  unfold route dispatch
  cases Endpoint.ofPath? r.uri.path with
  | none => rfl
  | some e =>
    by_cases hmethod : e.accepts r.method = true
    · simp only [if_pos hmethod]
      exact run_eq_answer e
    · simp only [if_neg hmethod]
      rfl

/-! ## Turned away or not -/

lemma possible_dispatchBody (app : Application) (forFlows : Bool) (r : Request) :
    (app.dispatchBody forFlows r).Possible r := by
  unfold dispatchBody
  cases pageRequest? (parameters r) with
  | none => exact .rejected (by decide)
  | some page =>
    by_cases hsize : app.maxBodySize < r.body.length
    · simp only [if_pos hsize]
      exact .rejected (by decide)
    · simp only [if_neg hsize]
      exact .call _

lemma possible_dispatchQuery (forFlows : Bool) (r : Request) :
    (dispatchQuery forFlows r).Possible r := by
  unfold dispatchQuery
  split
  · exact .call _
  · exact .rejected (by decide)

lemma possible_dispatchAmong (name : String) (l : Option String → Lookup) (r : Request) :
    (dispatchAmong name l r).Possible r := by
  unfold dispatchAmong
  split
  · exact .rejected (by decide)
  · exact .call _

lemma possible_dispatchAt (app : Application) {r : Request} {e : Endpoint}
    (hpath : Endpoint.ofPath? r.uri.path = some e) : (app.dispatchAt r e).Possible r := by
  cases e with
  | health => exact .health
  | metrics =>
    obtain ⟨before, after, hpaths, -⟩ := List.lookup_eq_some_iff.mp hpath
    have hmem : (r.uri.path, Endpoint.metrics) ∈ Endpoint.paths := by simp [hpaths]
    exact .metrics (by simpa [Endpoint.paths] using hmem)
  | postDatasets | postFlows => exact app.possible_dispatchBody _ r
  | getDatasets | getFlows => exact possible_dispatchQuery _ r
  | tables | fields | flowNames => exact possible_dispatchAmong _ _ r
  | sources | scopes | appCodes | jobNames => exact .call _

lemma possible_dispatch (app : Application) (r : Request) : (app.dispatch r).Possible r := by
  unfold dispatch
  cases hpath : Endpoint.ofPath? r.uri.path with
  | none => exact .rejected (by decide)
  | some e =>
    by_cases hmethod : e.accepts r.method = true
    · simp only [if_pos hmethod]
      exact app.possible_dispatchAt hpath
    · have hstatus : ((Response.empty 405).withHeader "allow" (.ofText e.allow)).status = 405 := rfl
      simp only [if_neg hmethod]
      exact .rejected (by rw [hstatus]; decide)

lemma dispatch_eq_dispatchAt {e : Endpoint} (hpath : Endpoint.ofPath? r.uri.path = some e)
    (hmethod : e.accepts r.method = true) : app.dispatch r = app.dispatchAt r e := by
  unfold dispatch
  rw [hpath]
  simp only [hmethod, if_true]

lemma dispatch_ne_metrics (app : Application) (h : r.uri.path ≠ "/metrics") :
    app.dispatch r ≠ .metrics := by
  intro hmetrics
  have hpossible := app.possible_dispatch r
  rw [hmetrics] at hpossible
  cases hpossible with
  | metrics hpath => exact h hpath

lemma dispatch_options (app : Application) (h : r.method = "OPTIONS") :
    ∃ response, app.dispatch r = .rejected response := by
  unfold dispatch
  cases Endpoint.ofPath? r.uri.path with
  | none => exact ⟨_, rfl⟩
  | some e =>
    have hmethod : ¬ e.accepts r.method = true := by
      rw [h]
      cases e <;> decide
    simp only [if_neg hmethod]
    exact ⟨_, rfl⟩

lemma run_respond_call (app : Application) (m : Moment) {c : Call} (st : ServiceState)
    (h : app.dispatch r = .call c) :
    (app.respond m r).run st =
      let (outcome, after) := (c.outcome app m).run (entered r st)
      (app.dressed m r (report outcome), answered m r (report outcome).status after) := by
  have hoptions : r.method ≠ "OPTIONS" := by
    intro hmethod
    obtain ⟨response, hrejected⟩ := app.dispatch_options hmethod
    cases h.symm.trans hrejected
  rw [run_respond _ _ _ hoptions, route_eq_answer, h]
  rfl

lemma report_status_error {fault : Fault} (h : fault ≠ .pool .timedOut) :
    (report (.error fault)).status = 500 := by
  have hstatus : (Failure.database fault).status = 500 := by
    unfold Failure.status
    split
    · exact absurd (Failure.database.inj ‹_›) h
    · rfl
  exact hstatus

/-- How a call can end, and the status that reports it. -/
lemma report_cases (outcome : Except Fault Json) :
    (∃ value, outcome = .ok value ∧ (report outcome).status = 200) ∨
      (outcome = .error (.pool .timedOut) ∧ (report outcome).status = 503) ∨
      ∃ fault, outcome = .error fault ∧ fault ≠ .pool .timedOut ∧
        (report outcome).status = 500 := by
  cases outcome with
  | ok value => exact .inl ⟨value, rfl, rfl⟩
  | error fault =>
    by_cases hfault : fault = .pool .timedOut
    · subst hfault
      exact .inr (.inl ⟨rfl, rfl⟩)
    · exact .inr (.inr ⟨fault, rfl, hfault, report_status_error hfault⟩)

lemma health_status (app : Application) (st : ServiceState) :
    (app.health.run st).1.status = 200 ∨ (app.health.run st).1.status = 503 := by
  unfold health
  rw [StateT.run_bind]
  rcases (Service.ofSession _).run st with ⟨fault | done, after⟩
  · exact .inr rfl
  · exact .inl rfl

/-- A status from 400 to 499 is that of a request that is turned away. -/
theorem isClientError_iff_rejected (app : Application) (m : Moment) (r : Request)
    (st : ServiceState) :
    400 ≤ ((app.route m r).run st).1.status ∧ ((app.route m r).run st).1.status < 500 ↔
      ∃ response, app.dispatch r = .rejected response := by
  have hpossible := app.possible_dispatch r
  rw [route_eq_answer]
  cases hdispatch : app.dispatch r with
  | rejected response =>
    rw [hdispatch] at hpossible
    cases hpossible with
    | rejected hstatus =>
      have hrange : 400 ≤ response.status ∧ response.status < 500 := by
        simp only [List.mem_cons, List.not_mem_nil, or_false] at hstatus
        omega
      exact iff_of_true hrange ⟨response, rfl⟩
  | call c =>
    have hrange : ¬ (400 ≤ (report ((c.outcome app m).run st).1).status ∧
        (report ((c.outcome app m).run st).1).status < 500) := by
      rcases report_cases ((c.outcome app m).run st).1 with
        ⟨value, -, hstatus⟩ | ⟨-, hstatus⟩ | ⟨fault, -, -, hstatus⟩ <;> omega
    exact iff_of_false hrange (by simp)
  | health =>
    have hstatus := app.health_status st
    have hrange : ¬ (400 ≤ (app.health.run st).1.status ∧
        (app.health.run st).1.status < 500) := by omega
    exact iff_of_false hrange (by simp)
  | metrics =>
    have hstatus : ((app.answer m .metrics).run st).1.status = 200 := rfl
    rw [hstatus]
    exact iff_of_false (by decide) (by simp)

end Application

end FacetSearch
