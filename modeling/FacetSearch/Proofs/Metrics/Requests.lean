import FacetSearch.Proofs.Http.Conversation
import FacetSearch.Proofs.Metrics.Exposition
import FacetSearch.Proofs.Metrics.Samples

/-!
# Conservation of request metrics

Every request but OPTIONS comes in, is answered, and leaves: it is under way in between, and then
counted once with its status and timed once. The labels of requests can be read from their texts,
so that none of this falls to another sample unless two texts have the same hash. No endpoint
changes the metrics of requests itself.
-/

namespace FacetSearch

open Application

/-! ## The labels that occur -/

lemma pathLabel_slash (path : String) : ∃ rest, (pathLabel path).toList = '/' :: rest := by
  simp only [pathLabel]
  split
  · exact ⟨[], rfl⟩
  · split
    · next hknown =>
      rw [String.toList_ofList]
      rcases hknown with hsearch | hhealth | hmetrics
      · obtain ⟨rest, hrest⟩ := List.isPrefixOf_iff_prefix.mp hsearch
        exact ⟨_, hrest.symm⟩
      · exact ⟨_, hhealth⟩
      · exact ⟨_, hmetrics⟩
    · exact ⟨_, rfl⟩

namespace RouteLabels

/-- The text tells where the path begins. -/
structure Readable (l : RouteLabels) : Prop where
  method : '/' ∉ l.method.toList
  path : ∃ rest, l.path.toList = '/' :: rest

lemma toList_text (l : RouteLabels) :
    (Labelled.text l).toList = l.method.toList ++ l.path.toList := by
  simp [Labelled.text, Labelled.values, Labelled.labels, String.join]

lemma Readable.takeWhile {l : RouteLabels} (h : l.Readable) :
    (Labelled.text l).toList.takeWhile (· ≠ '/') = l.method.toList := by
  obtain ⟨rest, hrest⟩ := h.path
  have hmethod : ∀ c ∈ l.method.toList, decide (c ≠ '/') = true := fun c hc =>
    decide_eq_true fun hslash => h.method (hslash ▸ hc)
  rw [toList_text, hrest, List.takeWhile_append_of_pos hmethod,
    List.takeWhile_cons_of_neg (by simp), List.append_nil]

lemma Readable.eq_of_text_eq {l l' : RouteLabels} (h : l.Readable) (h' : l'.Readable)
    (htext : Labelled.text l = Labelled.text l') : l = l' := by
  have hmethod : l.method.toList = l'.method.toList := by
    rw [← h.takeWhile, ← h'.takeWhile, htext]
  have hpath : l.path.toList = l'.path.toList := by
    have hboth := congrArg String.toList htext
    rw [toList_text, toList_text, hmethod] at hboth
    exact List.append_cancel_left hboth
  obtain ⟨method, path⟩ := l
  obtain ⟨method', path'⟩ := l'
  obtain rfl : method = method' := String.toList_inj.mp hmethod
  obtain rfl : path = path' := String.toList_inj.mp hpath
  rfl

lemma eq_of_labels_eq {l l' : RouteLabels} (h : Labelled.labels l = Labelled.labels l') :
    l = l' := by
  obtain ⟨method, path⟩ := l
  obtain ⟨method', path'⟩ := l'
  simpa [Labelled.labels] using h

lemma readable_of_isToken {r : Request} (h : Headers.isToken r.method = true) :
    (routeLabels r).Readable where
  method := by
    intro hslash
    have hchars := List.all_eq_true.mp (Bool.and_eq_true_iff.mp h).2
    exact absurd (hchars '/' hslash) (by decide)
  path := pathLabel_slash r.uri.path

end RouteLabels

/-- The statuses of responses from endpoints. -/
def endpointStatuses : List String := ["200", "400", "404", "405", "413", "500", "503"]

namespace RequestLabels

structure Readable (l : RequestLabels) : Prop where
  route : l.route.Readable
  status : l.status ∈ endpointStatuses

lemma toList_text (l : RequestLabels) :
    (Labelled.text l).toList = (Labelled.text l.route).toList ++ l.status.toList := by
  simp [Labelled.text, Labelled.values, Labelled.labels, String.join]

lemma length_of_mem_endpointStatuses {status : String} (h : status ∈ endpointStatuses) :
    status.toList.length = 3 := by
  revert status
  decide

lemma Readable.eq_of_text_eq {l l' : RequestLabels} (h : l.Readable) (h' : l'.Readable)
    (htext : Labelled.text l = Labelled.text l') : l = l' := by
  have hboth := congrArg String.toList htext
  rw [toList_text, toList_text] at hboth
  have hlength : l.status.toList.length = l'.status.toList.length :=
    (length_of_mem_endpointStatuses h.status).trans
      (length_of_mem_endpointStatuses h'.status).symm
  obtain ⟨hroute, hstatus⟩ := List.append_inj' hboth hlength
  obtain ⟨route, status⟩ := l
  obtain ⟨route', status'⟩ := l'
  obtain rfl : route = route' := h.route.eq_of_text_eq h'.route (String.toList_inj.mp hroute)
  obtain rfl : status = status' := String.toList_inj.mp hstatus
  rfl

end RequestLabels

namespace LabelHash

variable {hash : LabelHash}

lemma NoCollision.tellsApart_routes {keys : List RouteLabels} (h : hash.NoCollision keys)
    (hkeys : ∀ k ∈ keys, k.Readable) : hash.TellsApart keys :=
  fun k hk k' hk' hsame => (hkeys k hk).eq_of_text_eq (hkeys k' hk') (h k hk k' hk' hsame)

lemma NoCollision.tellsApart_requests {keys : List RequestLabels} (h : hash.NoCollision keys)
    (hkeys : ∀ k ∈ keys, k.Readable) : hash.TellsApart keys :=
  fun k hk k' hk' hsame => (hkeys k hk).eq_of_text_eq (hkeys k' hk') (h k hk k' hk' hsame)

end LabelHash

lemma route_status_mem (app : Application) (m : Moment) (r : Request) (st : ServiceState) :
    toString ((app.route m r).run st).1.status ∈ endpointStatuses := by
  have hpossible := app.possible_dispatch r
  rw [route_eq_answer]
  cases hdispatch : app.dispatch r with
  | rejected response =>
    rw [hdispatch] at hpossible
    cases hpossible with
    | rejected hstatus =>
      have hanswer : ((app.answer m (.rejected response)).run st).1 = response := rfl
      rw [hanswer]
      simp only [List.mem_cons, List.not_mem_nil, or_false] at hstatus
      rcases hstatus with hstatus | hstatus | hstatus | hstatus <;> rw [hstatus] <;> decide
  | call c =>
    have hanswer : ((app.answer m (.call c)).run st).1 =
        report ((c.outcome app m).run st).1 := rfl
    rw [hanswer]
    rcases report_cases ((c.outcome app m).run st).1 with
      ⟨value, -, hstatus⟩ | ⟨-, hstatus⟩ | ⟨fault, -, -, hstatus⟩ <;> rw [hstatus] <;> decide
  | health =>
    have hanswer : ((app.answer m .health).run st).1 = (app.health.run st).1 := rfl
    rw [hanswer]
    rcases app.health_status st with hstatus | hstatus <;> rw [hstatus] <;> decide
  | metrics =>
    have hstatus : ((app.answer m .metrics).run st).1.status = 200 := rfl
    rw [hstatus]
    decide

/-- The labels under which an answered request is counted. -/
def Exchange.labels (x : Exchange) : RequestLabels :=
  ⟨routeLabels x.request, toString x.response.status⟩

/-- The labels of the requests that were counted. -/
def answeredLabels (exchanges : List Exchange) : List RequestLabels :=
  (exchanges.filter (·.request.method ≠ "OPTIONS")).map Exchange.labels

/-! ## What endpoints leave alone -/

/-- The registries agree on requests. -/
structure Registry.SameRequests (a b : Registry) : Prop where
  hash : a.hash = b.hash
  requests : a.requests = b.requests
  requestSeconds : a.requestSeconds = b.requestSeconds
  inFlight : a.inFlight = b.inFlight

/-- The computation leaves the metrics of requests as they are. -/
def Service.KeepsRequests {α : Type} (x : Service α) : Prop :=
  ∀ st : ServiceState, ((x.run st).2.metrics).SameRequests st.metrics

namespace Service.KeepsRequests

variable {α β : Type}

lemma pure (v : α) : KeepsRequests (pure v) := fun _ => ⟨rfl, rfl, rfl, rfl⟩

lemma bind {x : Service α} {f : α → Service β} (hx : KeepsRequests x)
    (hf : ∀ v, KeepsRequests (f v)) : KeepsRequests (x >>= f) := by
  intro st
  rw [StateT.run_bind]
  have hfirst := hx st
  have hsecond := hf (x.run st).1 (x.run st).2
  exact ⟨hsecond.hash.trans hfirst.hash, hsecond.requests.trans hfirst.requests,
    hsecond.requestSeconds.trans hfirst.requestSeconds,
    hsecond.inFlight.trans hfirst.inFlight⟩

lemma ofSession (session : Session α) : KeepsRequests (ofSession session) :=
  fun _ => ⟨rfl, rfl, rfl, rfl⟩

lemma recordSearch (search : SearchLabels) (status : String) (seconds : Float) :
    KeepsRequests (record (Registry.recordSearch search status seconds)) :=
  fun _ => ⟨rfl, rfl, rfl, rfl⟩

lemma recordMatches (domain : String) (count : Int) :
    KeepsRequests (record (Registry.recordMatches domain count)) :=
  fun _ => ⟨rfl, rfl, rfl, rfl⟩

lemma observed (search : SearchLabels) (seconds : Float) (session : Session (ResultPage α)) :
    KeepsRequests (SearchEngine.observed search seconds session) := by
  refine (ofSession session).bind fun result => ?_
  cases result with
  | ok page =>
    exact (recordSearch _ _ _).bind fun _ => (recordMatches _ _).bind fun _ => pure _
  | error fault => exact (recordSearch _ _ _).bind fun _ => pure _

lemma searchDatasets (e : SearchEngine) (db : Database) (options : Json) (w : PageWindow)
    (seconds : Float) : KeepsRequests (e.searchDatasets db options w seconds) := by
  unfold SearchEngine.searchDatasets
  cases DatasetFilter.ofOptions? options with
  | none => exact (recordSearch _ _ _).bind fun _ => pure _
  | some f => exact observed _ _ _

lemma searchFlows (e : SearchEngine) (db : Database) (options : Json) (w : PageWindow)
    (seconds : Float) : KeepsRequests (e.searchFlows db options w seconds) := by
  unfold SearchEngine.searchFlows
  cases FlowFilter.ofOptions? options with
  | none => exact (recordSearch _ _ _).bind fun _ => pure _
  | some f => exact observed _ _ _

lemma outcome (app : Application) (m : Moment) (c : Call) : KeepsRequests (c.outcome app m) := by
  cases c with
  | search forFlows options page =>
    cases forFlows with
    | true => exact (searchFlows _ _ _ _ _).bind fun _ => pure _
    | false => exact (searchDatasets _ _ _ _ _).bind fun _ => pure _
  | lookup l => exact (ofSession _).bind fun _ => pure _

lemma health (app : Application) : KeepsRequests app.health := by
  refine (ofSession _).bind fun answer => ?_
  cases answer with
  | ok => exact pure _
  | error => exact pure _

lemma route (app : Application) (m : Moment) (r : Request) : KeepsRequests (app.route m r) := by
  rw [route_eq_answer]
  cases app.dispatch r with
  | rejected response => exact pure response
  | call c => exact (outcome app m c).bind fun _ => pure _
  | health => exact health app
  | metrics => exact fun _ => ⟨rfl, rfl, rfl, rfl⟩

end Service.KeepsRequests

/-! ## What one request changes -/

/-- What a request that comes in and leaves changes, whatever happens to other metrics meanwhile. -/
lemma Registry.SameRequests.leave {r after : Registry} {l : RequestLabels}
    (h : after.SameRequests (r.enter l.route)) (seconds : Float) :
    (after.leave l.route l.status seconds).hash = r.hash ∧
    (after.leave l.route l.status seconds).requests = r.requests.adjust r.hash l 0 (· + 1) ∧
    (after.leave l.route l.status seconds).requestSeconds =
      r.requestSeconds.adjust r.hash l.route (.empty secondsBounds)
        (.observe secondsBounds seconds) ∧
    (after.leave l.route l.status seconds).inFlight =
      r.inFlight.adjust r.hash l.route 0 fun n => n + 1 - 1 := by
  have hhash : after.hash = r.hash := h.hash
  refine ⟨hhash, ?_, ?_, ?_⟩
  · rw [Registry.leave, h.requests, hhash]
    rfl
  · rw [Registry.leave, h.requestSeconds, hhash]
    rfl
  · rw [Registry.leave, h.inFlight, hhash]
    exact Samples.adjust_adjust _ _ _ _ _ _

/-- The metrics of requests count these answered requests, and none is under way. -/
structure Registry.Tallies (r : Registry) (hash : LabelHash) (answered : List RequestLabels) :
    Prop where
  hash_eq : r.hash = hash
  readable : ∀ l ∈ answered, l.Readable
  requests : r.requests.Counts hash id answered
  seconds : r.requestSeconds.Counts hash Histogram.count (answered.map RequestLabels.route)
  inFlight : r.inFlight.Covers hash (answered.map RequestLabels.route)
  idle : ∀ sample ∈ r.inFlight, sample.2 = 0

lemma Registry.tallies_empty (hash : LabelHash) : Registry.Tallies { hash } hash [] where
  hash_eq := rfl
  readable _ h := nomatch h
  requests := .nil
  seconds := .nil
  inFlight := .nil
  idle _ h := nomatch h

namespace Registry.Tallies

variable {r after : Registry} {hash : LabelHash} {done : List RequestLabels} {l : RequestLabels}

lemma readable_routes (h : r.Tallies hash done) :
    ∀ route ∈ done.map RequestLabels.route, route.Readable := by
  rw [List.forall_mem_map]
  exact fun l hl => (h.readable l hl).route

/-- A request that comes in and leaves adds to the tally, whatever happens to other metrics
meanwhile. -/
lemma leave (h : r.Tallies hash done) (hl : l.Readable)
    (hsame : after.SameRequests (r.enter l.route)) (seconds : Float) :
    (after.leave l.route l.status seconds).Tallies hash (done ++ [l]) := by
  obtain ⟨hhash, hrequests, hseconds, hinFlight⟩ := hsame.leave seconds
  rw [h.hash_eq] at hhash hrequests hseconds hinFlight
  constructor
  · exact hhash
  · rw [List.forall_mem_append]
    exact ⟨h.readable, List.forall_mem_singleton.mpr hl⟩
  · rw [hrequests]
    exact h.requests.adjust l 0 rfl fun _ => rfl
  · rw [hseconds, List.map_append]
    exact h.seconds.adjust l.route _ rfl fun _ => rfl
  · rw [hinFlight, List.map_append]
    exact h.inFlight.adjust l.route
  · rw [hinFlight]
    intro sample hsample
    rcases Samples.mem_adjust hsample with ⟨-, v, hvalue, hleft⟩ | hold
    · have hv : v = 0 := hvalue.elim And.left (h.idle (sample.1, v))
      rw [hleft, hv]
      rfl
    · exact h.idle sample hold

end Registry.Tallies

/-! ## What all requests have changed -/

namespace Application

variable (app : Application)

lemma run_receive_options {v : Visit} (h : v.request.method = "OPTIONS") (st : ServiceState) :
    ((app.receive v).run st).2 = st := by
  rw [receive, StateT.run_bind, run_respond_options _ _ _ h]
  rfl

/-- A request that is answered comes in, is routed and leaves. -/
lemma exists_leave {v : Visit} (h : v.request.method ≠ "OPTIONS") {st after : ServiceState}
    {x : Exchange} (hrun : (app.receive v).run st = (x, after)) :
    x.labels.route = routeLabels v.request ∧ x.labels.status ∈ endpointStatuses ∧
      ∃ between : Registry, between.SameRequests (st.metrics.enter x.labels.route) ∧
        after.metrics = between.leave x.labels.route x.labels.status v.moment.requestSeconds := by
  have hkept := Service.KeepsRequests.route (app.on v.db) v.moment v.request
    (entered v.request st)
  have hstatus := route_status_mem (app.on v.db) v.moment v.request (entered v.request st)
  rw [receive, StateT.run_bind, run_respond _ _ _ h] at hrun
  rcases hroute : ((app.on v.db).route v.moment v.request).run (entered v.request st) with
    ⟨response, between⟩
  rw [hroute] at hkept hstatus hrun
  have hdressed := (app.on v.db).dressed_status v.moment (r := v.request) response
  cases hrun
  refine ⟨rfl, ?_, between.metrics, hkept, ?_⟩
  · rw [Exchange.labels, hdressed]
    exact hstatus
  · rw [Exchange.labels, hdressed]
    rfl

lemma request_of_receive {v : Visit} {st after : ServiceState} {x : Exchange}
    (hrun : (app.receive v).run st = (x, after)) : x.request = v.request :=
  congrArg (·.1.request) hrun.symm

lemma run_converse_cons {v : Visit} {visits : List Visit} {st mid : ServiceState} {x : Exchange}
    (hrun : (app.receive v).run st = (x, mid)) :
    (app.converse (v :: visits)).run st =
      (x :: ((app.converse visits).run mid).1, ((app.converse visits).run mid).2) := by
  rw [converse, List.mapM_cons, StateT.run_bind, hrun]
  rfl

/-- A conversation adds its exchanges to the tally, but those about OPTIONS. -/
lemma tallies_converse {visits : List Visit}
    (h : ∀ v ∈ visits, Headers.isToken v.request.method = true) {st after : ServiceState}
    {exchanges : List Exchange} (hrun : (app.converse visits).run st = (exchanges, after))
    {hash : LabelHash} {done : List RequestLabels} (hdone : st.metrics.Tallies hash done) :
    exchanges.map Exchange.request = visits.map Visit.request ∧
      after.metrics.Tallies hash (done ++ answeredLabels exchanges) := by
  induction visits generalizing st done exchanges with
  | nil =>
    cases hrun
    exact ⟨rfl, (List.append_nil done).symm ▸ hdone⟩
  | cons v visits ih =>
    obtain ⟨hv, hvisits⟩ := List.forall_mem_cons.mp h
    rcases hfirst : (app.receive v).run st with ⟨x, mid⟩
    have hrequest : x.request = v.request := app.request_of_receive hfirst
    rcases hrest : (app.converse visits).run mid with ⟨rest, last⟩
    rw [app.run_converse_cons hfirst, hrest] at hrun
    cases hrun
    by_cases hoptions : v.request.method = "OPTIONS"
    · have hmid : mid = st := by
        rw [← app.run_receive_options hoptions st, hfirst]
      rw [hmid] at hrest
      obtain ⟨hrequests, hlast⟩ := ih hvisits hrest hdone
      refine ⟨?_, ?_⟩
      · rw [List.map_cons, List.map_cons, hrequest, hrequests]
      · rw [answeredLabels, List.filter_cons_of_neg (by simpa [hrequest] using hoptions)]
        exact hlast
    · obtain ⟨hroute, hstatus, between, hbetween, hleft⟩ := app.exists_leave hoptions hfirst
      have hreadable : x.labels.Readable := by
        refine ⟨?_, hstatus⟩
        rw [hroute]
        exact RouteLabels.readable_of_isToken hv
      have hmid : mid.metrics.Tallies hash (done ++ [x.labels]) := by
        rw [hleft]
        exact hdone.leave hreadable hbetween _
      obtain ⟨hrequests, hlast⟩ := ih hvisits hrest hmid
      refine ⟨?_, ?_⟩
      · rw [List.map_cons, List.map_cons, hrequest, hrequests]
      · rw [answeredLabels, List.filter_cons_of_pos (by simpa [hrequest] using hoptions),
          List.map_cons, List.append_cons]
        exact hlast

lemma dispatch_metrics {r : Request} (hmethod : r.method = "GET")
    (hpath : r.uri.path = "/metrics") : app.dispatch r = .metrics :=
  dispatch_eq_dispatchAt (e := .metrics) (by rw [hpath]; rfl) (by rw [hmethod]; rfl)

/-- The exposition is made while the request for it is under way. -/
lemma run_receive_metrics {v : Visit} (hmethod : v.request.method = "GET")
    (hpath : v.request.uri.path = "/metrics") (st : ServiceState) :
    ((app.receive v).run st).1.response.body =
      .samples (st.metrics.enter (routeLabels v.request)).lines := by
  have hoptions : v.request.method ≠ "OPTIONS" := by
    rw [hmethod]
    decide
  have hhead : v.request.method ≠ "HEAD" := by
    rw [hmethod]
    decide
  rw [receive, StateT.run_bind, run_respond _ _ _ hoptions, route_eq_answer,
    (app.on v.db).dispatch_metrics hmethod hpath]
  exact (app.on v.db).dressed_body _ hhead _

end Application

namespace Registry.Tallies

variable {r : Registry} {hash : LabelHash} {done : List RequestLabels}

/-- The lines of the gauges while a request is under way. -/
lemma inFlight_lines_enter (h : r.Tallies hash done) (own : RouteLabels) :
    ∃ route, hash.ofLabels route = hash.ofLabels own ∧
      (route = own ∨ route ∈ done.map RequestLabels.route) ∧
      ⟨"catalog_http_requests_in_flight", Labelled.labels route, "1"⟩ ∈ (r.enter own).lines ∧
      ∀ l ∈ (r.enter own).lines, l.name = "catalog_http_requests_in_flight" →
        l.value = if l.labels = Labelled.labels route then "1" else "0" := by
  obtain ⟨route, hsame, hroute, hmem, hvalues⟩ :=
    Samples.value_of_mem_adjust h.inFlight.distinct own (· + 1) h.idle
  have henter : (r.enter own).inFlight = r.inFlight.adjust hash own 0 (· + 1) := by
    rw [Registry.enter, h.hash_eq]
  rw [← henter] at hmem hvalues
  refine ⟨route, hsame, hroute.imp_right fun hkey => ?_, ?_, ?_⟩
  · obtain ⟨sample, hsample, rfl⟩ := List.mem_map.mp hkey
    exact h.inFlight.within sample hsample
  · exact (mem_lines_inFlight _ rfl).mpr (mem_numberLines.mpr ⟨(route, 1), hmem, rfl⟩)
  · intro l hl hname
    obtain ⟨sample, hsample, rfl⟩ := mem_numberLines.mp ((mem_lines_inFlight _ hname).mp hl)
    rw [hvalues sample hsample]
    by_cases hown : sample.1 = route
    · rw [if_pos hown, if_pos (congrArg Labelled.labels hown)]
      rfl
    · have hlabels : Labelled.labels sample.1 ≠ Labelled.labels route := fun hlabels =>
        hown (RouteLabels.eq_of_labels_eq hlabels)
      rw [if_neg hown, if_neg hlabels]
      rfl

end Registry.Tallies

/-- Whatever requests come one after the other, with whatever methods (which are tokens), paths,
headers, bodies and databases, and whatever the hash of labels: as many are counted and timed as
there were, but for those of OPTIONS, which change nothing. A sample counts the requests whose
labels have its hash, and no gauge is left standing. Where the labels that occurred do not collide,
each label set holds as many requests as were answered so, and as many durations are observed on a
route as requests are counted on it over all statuses. An exposition that is asked for next differs
from what there is only in the gauges: there the request for it stands under its own labels, unless
they collide with others, and nothing stands anywhere else. -/
theorem requests_conserved (app : Application) (hash : LabelHash) (visits : List Visit) (sent : Log)
    (h : ∀ v ∈ visits, Headers.isToken v.request.method = true) :
    let (exchanges, after) := (app.converse visits).run { sent, metrics := { hash } }
    let labels := answeredLabels exchanges
    let routes := labels.map RequestLabels.route
    let r := after.metrics
    exchanges.map Exchange.request = visits.map Visit.request ∧
    r.requests.sumOver id (fun _ => true) = visits.countP (·.request.method ≠ "OPTIONS") ∧
    r.requestSeconds.sumOver Histogram.count (fun _ => true) =
      visits.countP (·.request.method ≠ "OPTIONS") ∧
    (∀ sample ∈ r.requests,
      sample.2 = labels.countP (hash.ofLabels · = hash.ofLabels sample.1)) ∧
    (∀ sample ∈ r.requestSeconds,
      sample.2.count = routes.countP (hash.ofLabels · = hash.ofLabels sample.1)) ∧
    (∀ sample ∈ r.inFlight, sample.2 = 0) ∧
    (hash.NoCollision labels → ∀ l, r.requests.valueOf id l = labels.count l) ∧
    (hash.NoCollision labels → hash.NoCollision routes → ∀ route,
      r.requestSeconds.valueOf Histogram.count route = r.requests.sumOver id (·.route = route)) ∧
    (∀ v : Visit, v.request.method = "OPTIONS" → ((app.receive v).run after).2 = after) ∧
    ∀ v : Visit, v.request.method = "GET" → v.request.uri.path = "/metrics" →
      ∃ lines, ∃ route : RouteLabels, ((app.receive v).run after).1.response.body = .samples lines ∧
        lines.filter (·.name ≠ "catalog_http_requests_in_flight") =
          r.lines.filter (·.name ≠ "catalog_http_requests_in_flight") ∧
        ⟨"catalog_http_requests_in_flight", Labelled.labels route, "1"⟩ ∈ lines ∧
        (∀ l ∈ lines, l.name = "catalog_http_requests_in_flight" →
          l.value = if l.labels = Labelled.labels route then "1" else "0") ∧
        hash.ofLabels route = hash.ofLabels (⟨"GET", "/metrics"⟩ : RouteLabels) ∧
        (hash.NoCollision (⟨"GET", "/metrics"⟩ :: routes) → route = ⟨"GET", "/metrics"⟩) := by
  rcases hrun : (app.converse visits).run { sent, metrics := { hash } } with ⟨exchanges, after⟩
  obtain ⟨hrequests, htally⟩ := app.tallies_converse h hrun (Registry.tallies_empty hash)
  rw [List.nil_append] at htally
  have hlength : (answeredLabels exchanges).length =
      visits.countP (·.request.method ≠ "OPTIONS") := by
    have hcount := congrArg (List.countP (·.method ≠ "OPTIONS")) hrequests
    rw [List.countP_map, List.countP_map] at hcount
    rw [answeredLabels, List.length_map, ← List.countP_eq_length_filter]
    exact hcount
  have hlabels (hapart : hash.NoCollision (answeredLabels exchanges)) :=
    hapart.tellsApart_requests htally.readable
  refine ⟨hrequests, ?_, ?_, fun sample => htally.requests.weight_of_mem,
    fun sample => htally.seconds.weight_of_mem, htally.idle,
    fun hapart => htally.requests.valueOf_eq (hlabels hapart), fun hapart hroutes route => ?_,
    fun v hv => app.run_receive_options hv after, fun v hmethod hpath => ?_⟩
  · rw [htally.requests.sumOver_true, hlength]
  · rw [htally.seconds.sumOver_true, List.length_map, hlength]
  · rw [htally.seconds.valueOf_eq (hroutes.tellsApart_routes htally.readable_routes),
      htally.requests.sumOver_eq (hlabels hapart), List.count_eq_countP, List.countP_map]
    rfl
  · have hown : routeLabels v.request = ⟨"GET", "/metrics"⟩ := by
      rw [routeLabels, hmethod, hpath]
      rfl
    have hreadable : (routeLabels v.request).Readable := RouteLabels.readable_of_isToken (by
      rw [hmethod]
      decide)
    obtain ⟨route, hsame, hroute, hline, hvalues⟩ :=
      htally.inFlight_lines_enter (routeLabels v.request)
    rw [hown] at hsame hroute hreadable
    refine ⟨_, route, app.run_receive_metrics hmethod hpath after, Registry.lines_enter _ _, hline,
      hvalues, hsame, fun hapart => ?_⟩
    have htold := hapart.tellsApart_routes
      (List.forall_mem_cons.mpr ⟨hreadable, htally.readable_routes⟩)
    exact htold route (List.mem_cons.mpr hroute) _ List.mem_cons_self hsame

/-- A service without a database that is asked after its health, about a path that does not exist,
and for its methods. -/
theorem requests_conserved_degraded :
    let app : Application := ⟨.ofSettings {} 30, ⟨fun _ => some .timedOut, fun _ _ => .rows []⟩,
      ⟨[]⟩, 1048576, "catalog-search", fun _ => true⟩
    let visit (method path : String) : Visit :=
      ⟨⟨method, ⟨path, none⟩, [], []⟩, ⟨"a48e1f2c", 0, 0⟩, app.db⟩
    let visits := [visit "GET" "/health", visit "PATCH" "/nowhere", visit "OPTIONS" "/health",
      visit "GET" "/health"]
    let r := ((app.converse visits).run {}).2.metrics
    (∀ v ∈ visits, Headers.isToken v.request.method = true) ∧
      r.requests.valueOf id ⟨⟨"GET", "/health"⟩, "503"⟩ = 2 ∧
      r.requests.valueOf id ⟨⟨"PATCH", "/other"⟩, "404"⟩ = 1 ∧
      r.requests.sumOver id (fun _ => true) = 3 ∧
      (∀ sample ∈ r.inFlight, sample.2 = 0) ∧
      ∃ lines, ((app.receive (visit "GET" "/metrics")).run
          ((app.converse visits).run {}).2).1.response.body = .samples lines ∧
        ⟨"catalog_http_requests_in_flight", [("method", "GET"), ("path", "/metrics")], "1"⟩ ∈
          lines := by
  intro app visit visits r
  have htokens : ∀ v ∈ visits, Headers.isToken v.request.method = true := by decide
  obtain ⟨-, hsum, -, -, -, hidle, hvalues, -, -, hscrape⟩ :=
    requests_conserved app .fnv1a visits [] htokens
  have hcounts := hvalues (by decide +kernel)
  obtain ⟨lines, route, hbody, -, hown, -, -, hroute⟩ := hscrape (visit "GET" "/metrics") rfl rfl
  rw [hroute (by decide +kernel)] at hown
  have hhealth := (hcounts ⟨⟨"GET", "/health"⟩, "503"⟩).trans (by decide +kernel : _ = 2)
  have hother := (hcounts ⟨⟨"PATCH", "/other"⟩, "404"⟩).trans (by decide +kernel : _ = 1)
  exact ⟨htokens, hhealth, hother, hsum, hidle, lines, hbody, hown⟩

/-- Two paths of which only one has an endpoint, and which are timed together. -/
example :
    let route (path : String) : RouteLabels := ⟨"GET", "/api/v1/advsearch/" ++ path⟩
    LabelHash.fnv1a.ofLabels (route "sources") = LabelHash.fnv1a.ofLabels (route "762kB5daWNVA") ∧
      route "sources" ≠ route "762kB5daWNVA" := by decide +kernel

end FacetSearch
