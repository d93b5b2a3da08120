import FacetSearch.Http.Application
import Mathlib.Tactic.Lemma

/-!
# How responses come about

Header fields that are set, and the layers between a request and its endpoint: all of them leave
status and body of the endpoint's response as they are.
-/

namespace FacetSearch

namespace Headers

/-- All values under a name, in order. -/
def values (h : Headers) (name : String) : List Bytes := (h.filter (·.1 = name)).map Prod.snd

variable {h : Headers} {name other : String} {field : String × Bytes}

lemma values_eq_nil_iff : h.values name = [] ↔ ∀ field ∈ h, field.1 ≠ name := by
  simp only [values, List.map_eq_nil_iff, List.filter_eq_nil_iff, decide_eq_true_eq, Ne]

lemma mem_set {value : Bytes} :
    field ∈ h.set name value ↔ (field ∈ h ∧ field.1 ≠ name) ∨ field = (name, value) := by
  rw [set, List.mem_append, List.mem_filter, List.mem_singleton, decide_eq_true_eq]

lemma values_append (h h' : Headers) (name : String) :
    (h ++ h').values name = h.values name ++ h'.values name := by
  unfold values
  rw [List.filter_append, List.map_append]

@[simp] lemma values_set_self (h : Headers) (name : String) (value : Bytes) :
    (h.set name value).values name = [value] := by
  have hdropped : values (h.filter (·.1 ≠ name)) name = [] :=
    values_eq_nil_iff.mpr fun field hfield => by simpa using (List.mem_filter.mp hfield).2
  rw [set, values_append, hdropped]
  simp [values]

lemma values_set_of_ne (h : Headers) (value : Bytes) (hne : other ≠ name) :
    (h.set name value).values other = h.values other := by
  have hkept : values (h.filter (·.1 ≠ name)) other = h.values other := by
    unfold values
    rw [List.filter_filter]
    congr 1
    refine List.filter_congr fun field _ => ?_
    by_cases hfield : field.1 = other
    · simp [hfield, hne]
    · simp [hfield]
  rw [set, values_append, hkept]
  simp [values, hne.symm]

lemma first?_eq_head?_values (h : Headers) (name : String) :
    h.first? name = (h.values name).head? := by
  unfold first? values
  induction h with
  | nil => rfl
  | cons field h ih =>
    obtain ⟨key, value⟩ := field
    by_cases hkey : key = name
    · rw [List.filter_cons_of_pos (by simpa using hkey), List.lookup_cons, hkey, beq_self_eq_true]
      rfl
    · have hname : (name == key) = false := by simpa using Ne.symm hkey
      rw [List.filter_cons_of_neg (by simpa using hkey), List.lookup_cons, hname]
      exact ih

@[simp] lemma first?_set_self (h : Headers) (name : String) (value : Bytes) :
    (h.set name value).first? name = some value := by
  rw [first?_eq_head?_values, values_set_self]
  rfl

lemma first?_set_of_ne (h : Headers) (value : Bytes) (hne : other ≠ name) :
    (h.set name value).first? other = h.first? other := by
  rw [first?_eq_head?_values, values_set_of_ne h value hne, first?_eq_head?_values]

end Headers

namespace Cors

/-- Only the header for origins is set. -/
lemma values_allowOrigin_of_ne (c : Cors) (r : Request) (response : Response) {name : String}
    (h : name ≠ originHeader) :
    (c.allowOrigin r response).headers.values name = response.headers.values name := by
  unfold allowOrigin
  split
  · split
    · exact Headers.values_set_of_ne _ _ h
    · rfl
  · rfl

lemma first?_allowOrigin (c : Cors) (r : Request) (response : Response) {name : String}
    (h : name ≠ originHeader) :
    (c.allowOrigin r response).headers.first? name = response.headers.first? name := by
  rw [Headers.first?_eq_head?_values, values_allowOrigin_of_ne c r response h,
    Headers.first?_eq_head?_values]

lemma allowOrigin_keeps (c : Cors) (r : Request) (response : Response) :
    (c.allowOrigin r response).status = response.status ∧
      (c.allowOrigin r response).body = response.body := by
  rw [allowOrigin]
  split
  · split
    · exact ⟨rfl, rfl⟩
    · exact ⟨rfl, rfl⟩
  · exact ⟨rfl, rfl⟩

end Cors

namespace RequestId

variable (fresh : String) (r : Request) (response : Response)

lemma tag_keeps :
    (tag fresh r response).status = response.status ∧
      (tag fresh r response).body = response.body := by
  rw [tag]
  split
  · exact ⟨rfl, rfl⟩
  · exact ⟨rfl, rfl⟩

lemma first?_tag : (tag fresh r response).headers.first? header = some (.ofText fresh) := by
  have hset : (response.withHeader header (.ofText fresh)).headers.first? header =
      some (.ofText fresh) := Headers.first?_set_self _ _ _
  rw [tag]
  split
  · rw [Response.withHeader, Headers.first?_set_of_ne _ _ (by decide), hset]
  · exact hset

end RequestId

namespace Application

variable (app : Application) (m : Moment) {r : Request} (st : ServiceState)

/-- The labels under which a request is counted. -/
def routeLabels (r : Request) : RouteLabels := ⟨r.method, pathLabel r.uri.path⟩

/-- The state in which the endpoint of a request finds the service. -/
def entered (r : Request) (st : ServiceState) : ServiceState :=
  { st with metrics := st.metrics.enter (routeLabels r) }

/-- The state once a request has been answered with this status. -/
def answered (m : Moment) (r : Request) (status : Nat) (st : ServiceState) : ServiceState :=
  { st with
    metrics := st.metrics.leave (routeLabels r) (toString status) m.requestSeconds }

lemma route_eq_run {e : Endpoint} (hpath : Endpoint.ofPath? r.uri.path = some e)
    (hmethod : e.accepts r.method = true) : app.route m r = app.run m e r := by
  rw [route, hpath]
  simp only [hmethod, if_true]

/-- The response of an endpoint with what the layers add to it. -/
def dressed (r : Request) (response : Response) : Response :=
  bodyFor r.method (app.cors.allowOrigin r (RequestId.tag m.requestId r response))

lemma run_respond_options (h : r.method = "OPTIONS") :
    (app.respond m r).run st =
      (app.cors.preflight ((Endpoint.ofPath? r.uri.path).map Endpoint.allow) r, st) := by
  rw [respond, if_pos h]
  rfl

/-- A request passes through the layers to its endpoint, and the response back. -/
lemma run_respond (h : r.method ≠ "OPTIONS") :
    (app.respond m r).run st =
      let (response, after) := (app.route m r).run (entered r st)
      (app.dressed m r response, answered m r response.status after) := by
  rcases hroute : (app.route m r).run (entered r st) with ⟨response, after⟩
  have hcounted : (counted m (identified m (app.route m)) r).run st =
      (RequestId.tag m.requestId r response,
        answered m r (RequestId.tag m.requestId r response).status after) := by
    have hlayers : (counted m (identified m (app.route m)) r).run st =
        let (response, after) := (app.route m r).run (entered r st)
        (RequestId.tag m.requestId r response,
          answered m r (RequestId.tag m.requestId r response).status after) := rfl
    rw [hlayers, hroute]
  rw [(RequestId.tag_keeps _ _ _).1] at hcounted
  rw [respond, if_neg h, StateT.run_bind, hcounted]
  rfl

lemma dressed_status (response : Response) :
    (app.dressed m r response).status = response.status := by
  have hlayers := (Cors.allowOrigin_keeps app.cors r (RequestId.tag m.requestId r response)).1.trans
    (RequestId.tag_keeps m.requestId r response).1
  rw [dressed, bodyFor]
  split
  · exact hlayers
  · exact hlayers

lemma dressed_body (h : r.method ≠ "HEAD") (response : Response) :
    (app.dressed m r response).body = response.body := by
  rw [dressed, bodyFor, if_neg h]
  exact (Cors.allowOrigin_keeps _ _ _).2.trans (RequestId.tag_keeps _ _ _).2

lemma dressed_headers (response : Response) :
    (app.dressed m r response).headers =
      (app.cors.allowOrigin r (RequestId.tag m.requestId r response)).headers := by
  rw [dressed, bodyFor]
  split
  · rfl
  · rfl

end Application

end FacetSearch
