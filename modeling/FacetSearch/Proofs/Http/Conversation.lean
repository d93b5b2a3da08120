import FacetSearch.Proofs.Database.Protocol
import FacetSearch.Proofs.Database.Wording
import FacetSearch.Proofs.Http.Dispatch

/-!
# Conversations with the service

Requests answered one after the other, each at its own moment and with the database as it is then.
What they are answered, and what is sent to the database, depends on the past through the commands
sent before and on the database through everything but the texts of its errors. The random
identifiers differ from answer to answer, and the exposition of the metrics is left out.
-/

namespace FacetSearch

namespace Headers

def without (h : Headers) (name : String) : Headers := h.filter (·.1 ≠ name)

lemma without_set_self (h : Headers) (name : String) (value : Bytes) :
    (h.set name value).without name = h.without name := by
  unfold set without
  rw [List.filter_append, List.filter_filter]
  simp

lemma without_set_of_ne (h : Headers) {name other : String} (value : Bytes) (hne : other ≠ name) :
    (h.set other value).without name = (h.without name).set other value := by
  unfold set without
  rw [List.filter_append, List.filter_comm, List.filter_cons_of_pos (by simpa using hne)]
  rfl

end Headers

namespace Response

/-- The responses are the same up to the random identifier. -/
structure SameButIdentifier (a b : Response) : Prop where
  status : a.status = b.status
  headers : a.headers.without RequestId.header = b.headers.without RequestId.header
  body : a.body = b.body

variable {a b : Response}

lemma SameButIdentifier.refl (a : Response) : a.SameButIdentifier a := ⟨rfl, rfl, rfl⟩

lemma SameButIdentifier.withHeader (h : a.SameButIdentifier b) {name : String} (value : Bytes)
    (hne : name ≠ RequestId.header) :
    (a.withHeader name value).SameButIdentifier (b.withHeader name value) where
  status := h.status
  headers := by
    unfold Response.withHeader
    rw [Headers.without_set_of_ne _ _ hne, Headers.without_set_of_ne _ _ hne, h.headers]
  body := h.body

lemma SameButIdentifier.tag (fresh fresh' : String) (r : Request) (response : Response) :
    (RequestId.tag fresh r response).SameButIdentifier (RequestId.tag fresh' r response) := by
  have hfresh : (response.withHeader RequestId.header (.ofText fresh)).SameButIdentifier
      (response.withHeader RequestId.header (.ofText fresh')) :=
    ⟨rfl, (Headers.without_set_self _ _ _).trans (Headers.without_set_self _ _ _).symm, rfl⟩
  unfold RequestId.tag
  cases RequestId.ofClient? r.headers with
  | none => exact hfresh
  | some id => exact hfresh.withHeader id (by decide)

lemma SameButIdentifier.allowOrigin (h : a.SameButIdentifier b) (c : Cors) (r : Request) :
    (c.allowOrigin r a).SameButIdentifier (c.allowOrigin r b) := by
  unfold Cors.allowOrigin
  cases r.headers.first? "origin" with
  | none => exact h
  | some origin =>
    by_cases hallowed : origin ∈ c.origins
    · simp only [if_pos hallowed]
      exact h.withHeader origin (by decide)
    · simp only [if_neg hallowed]
      exact h

lemma SameButIdentifier.bodyFor (h : a.SameButIdentifier b) (method : String) :
    (Application.bodyFor method a).SameButIdentifier (Application.bodyFor method b) := by
  unfold Application.bodyFor
  by_cases hmethod : method = "HEAD"
  · rw [if_pos hmethod, if_pos hmethod]
    exact ⟨h.status, h.headers, rfl⟩
  · rw [if_neg hmethod, if_neg hmethod]
    exact h

end Response

namespace Service

variable {α β γ δ : Type}

/-- From states in which the same has been sent, the computations give related values and have sent
the same. -/
def Relates (R : α → β → Prop) (x : Service α) (y : Service β) : Prop :=
  ∀ st st' : ServiceState, st.sent = st'.sent →
    R (x.run st).1 (y.run st').1 ∧ (x.run st).2.sent = (y.run st').2.sent

variable {R : α → β → Prop} {S : γ → δ → Prop}

lemma Relates.pure {a : α} {b : β} (h : R a b) : Relates R (pure a) (pure b) :=
  fun _ _ hsent => ⟨h, hsent⟩

lemma Relates.bind {x : Service α} {y : Service β} {f : α → Service γ} {g : β → Service δ}
    (hxy : Relates R x y) (hfg : ∀ {a b}, R a b → Relates S (f a) (g b)) :
    Relates S (x >>= f) (y >>= g) := by
  intro st st' hsent
  obtain ⟨hvalue, hafter⟩ := hxy st st' hsent
  rw [StateT.run_bind, StateT.run_bind]
  exact hfg hvalue _ _ hafter

lemma Relates.record (f g : Registry → Registry) :
    Relates (fun _ _ => True) (record f) (record g) :=
  fun _ _ hsent => ⟨trivial, hsent⟩

lemma Relates.ofSession {session session' : Session α} (h : session.Alike session') :
    Relates Session.SameResult (ofSession session) (ofSession session') := by
  intro st st' hsent
  rw [run_ofSession, run_ofSession, hsent]
  exact h st'.sent

lemma Relates.observed {session session' : Session (ResultPage α)} (h : session.Alike session')
    (search : SearchLabels) (seconds seconds' : Float) :
    Relates Session.SameResult (SearchEngine.observed search seconds session)
      (SearchEngine.observed search seconds' session') := by
  intro st st' hsent
  obtain ⟨hresult, hafter⟩ := SearchEngine.run_observed search seconds session st
  obtain ⟨hresult', hafter'⟩ := SearchEngine.run_observed search seconds' session' st'
  rw [hresult, hresult', hafter, hafter', hsent]
  exact h st'.sent

end Service

lemma Session.SameResult.map {α β : Type} {found found' : Except Fault α}
    (h : SameResult found found') (f : α → β) : SameResult (found.map f) (found'.map f) := by
  cases h with
  | ok a => exact .ok (f a)
  | error h => exact .error h

namespace Database.SameButMessages

open Service

variable {db db' : Database}

lemma searchDatasets (h : db.SameButMessages db') (e : SearchEngine) (options : Json)
    (w : PageWindow) (seconds seconds' : Float) :
    Relates Session.SameResult (e.searchDatasets db options w seconds)
      (e.searchDatasets db' options w seconds') := by
  unfold SearchEngine.searchDatasets
  cases DatasetFilter.ofOptions? options with
  | none => exact (Relates.record _ _).bind fun _ => .pure (.ok _)
  | some f => exact .observed (h.runDatasets e _ w) _ _ _

lemma searchFlows (h : db.SameButMessages db') (e : SearchEngine) (options : Json)
    (w : PageWindow) (seconds seconds' : Float) :
    Relates Session.SameResult (e.searchFlows db options w seconds)
      (e.searchFlows db' options w seconds') := by
  unfold SearchEngine.searchFlows
  cases FlowFilter.ofOptions? options with
  | none => exact (Relates.record _ _).bind fun _ => .pure (.ok _)
  | some f => exact .observed (h.runFlows e f w) _ _ _

end Database.SameButMessages

/-- A request with what it finds when it comes. -/
structure Visit where
  request : Request
  moment : Moment
  db : Database

/-- The visits differ at most in their moments and in the texts of errors. -/
structure Visit.SameButMessages (v v' : Visit) : Prop where
  request : v.request = v'.request
  db : v.db.SameButMessages v'.db

structure Exchange where
  request : Request
  response : Response

/-- The same request has got the same response up to its identifier, unless it was for the
metrics. -/
structure Exchange.Alike (x y : Exchange) : Prop where
  request : x.request = y.request
  response : x.request.uri.path ≠ "/metrics" → x.response.SameButIdentifier y.response

namespace Application

open Service

def on (app : Application) (db : Database) : Application := { app with db }

def receive (app : Application) (v : Visit) : Service Exchange := do
  return ⟨v.request, ← (app.on v.db).respond v.moment v.request⟩

def converse (app : Application) (visits : List Visit) : Service (List Exchange) :=
  visits.mapM app.receive

variable (app : Application) (m m' : Moment) {db db' : Database}

lemma relates_outcome (h : db.SameButMessages db') (c : Call) :
    Relates Session.SameResult (c.outcome (app.on db) m) (c.outcome (app.on db') m') := by
  cases c with
  | search forFlows options page =>
    cases forFlows with
    | true => exact (h.searchFlows _ _ _ _ _).bind fun hfound => .pure (hfound.map _)
    | false => exact (h.searchDatasets _ _ _ _ _).bind fun hfound => .pure (hfound.map _)
  | lookup l => exact (Relates.ofSession (h.lookup _ l)).bind fun hfound => .pure (hfound.map _)

/-- The response to a fault is made without the text of the fault. -/
lemma report_eq_of_sameResult {outcome outcome' : Except Fault Json}
    (h : Session.SameResult outcome outcome') : report outcome = report outcome' := by
  cases h with
  | ok value => rfl
  | error h =>
    cases h with
    | same fault => rfl
    | server code message message' => rfl

lemma relates_health (h : db.SameButMessages db') :
    Relates Eq (app.on db).health (app.on db').health := by
  have hping : Relates Session.SameResult
      (Service.ofSession do db.connect; db.execute .ping)
      (Service.ofSession do db'.connect; db'.execute .ping) :=
    .ofSession (h.connect.bind fun _ => h.execute _)
  apply hping.bind
  intro answer answer' hanswer
  cases hanswer with
  | ok => exact .pure rfl
  | error => exact .pure rfl

lemma relates_answer (h : db.SameButMessages db') (d : Dispatch) :
    Relates (fun response response' => d ≠ .metrics → response = response')
      ((app.on db).answer m d) ((app.on db').answer m' d) := by
  cases d with
  | rejected response => exact .pure fun _ => rfl
  | call c =>
    exact (app.relates_outcome m m' h c).bind fun houtcome =>
      .pure fun _ => report_eq_of_sameResult houtcome
  | health =>
    intro st st' hsent
    obtain ⟨hresponse, hafter⟩ := app.relates_health h st st' hsent
    exact ⟨fun _ => hresponse, hafter⟩
  | metrics => exact fun st st' hsent => ⟨fun hne => absurd rfl hne, hsent⟩

lemma sameButIdentifier_dressed (r : Request) (response : Response) :
    (app.dressed m r response).SameButIdentifier (app.dressed m' r response) :=
  ((Response.SameButIdentifier.tag _ _ r response).allowOrigin app.cors r).bodyFor r.method

lemma relates_respond (h : db.SameButMessages db') (r : Request) :
    Relates (fun response response' => r.uri.path ≠ "/metrics" →
        response.SameButIdentifier response')
      ((app.on db).respond m r) ((app.on db').respond m' r) := by
  intro st st' hsent
  by_cases hoptions : r.method = "OPTIONS"
  · rw [run_respond_options _ _ _ hoptions, run_respond_options _ _ _ hoptions]
    exact ⟨fun _ => .refl _, hsent⟩
  · obtain ⟨hresponse, hafter⟩ := app.relates_answer m m' h (app.dispatch r)
      (entered r st) (entered r st') hsent
    rw [run_respond _ _ _ hoptions, run_respond _ _ _ hoptions, route_eq_answer, route_eq_answer]
    refine ⟨fun hpath => ?_, hafter⟩
    have heq := hresponse (app.dispatch_ne_metrics hpath)
    change (app.dressed m r (((app.on db).answer m (app.dispatch r)).run _).1).SameButIdentifier
      (app.dressed m' r (((app.on db').answer m' (app.dispatch r)).run _).1)
    rw [heq]
    exact app.sameButIdentifier_dressed m m' r _

lemma relates_receive {v v' : Visit} (h : v.SameButMessages v') :
    Relates Exchange.Alike (app.receive v) (app.receive v') := by
  obtain ⟨request, m, db⟩ := v
  obtain ⟨request', m', db'⟩ := v'
  obtain rfl : request = request' := h.request
  exact (app.relates_respond m m' h.db request).bind fun hresponse => .pure ⟨rfl, hresponse⟩

/-- Conversations with databases that differ at most in the texts of their errors, at whatever
moments, are alike from states in which the same has been sent. -/
lemma relates_converse {visits visits' : List Visit}
    (h : List.Forall₂ Visit.SameButMessages visits visits') :
    Relates (List.Forall₂ Exchange.Alike) (app.converse visits) (app.converse visits') := by
  unfold converse
  induction h with
  | nil => exact .pure .nil
  | cons hvisit _ ih =>
    rw [List.mapM_cons, List.mapM_cons]
    exact (app.relates_receive hvisit).bind fun hexchange =>
      ih.bind fun hexchanges => .pure (.cons hexchange hexchanges)

end Application

end FacetSearch
