import FacetSearch.Proofs.Http.Conversation

/-!
# What failures disclose

The response to a search or a lookup tells whether it succeeded, and of a failure only whether the
pool had no connection in time. The texts of errors appear in no response and in no command.
-/

namespace FacetSearch

/-- What is shown of the outcome of a call: a failure is told by the status alone. -/
def Call.shown (status : Nat) : Except Fault Json → Json
  | .ok value => value
  | .error _ => .object [("status", .string "error"), ("code", .int status),
    ("message", .string (Failure.reason status))]

/-- The response tells how a call ended, and of a failure nothing but its kind. -/
structure Response.Tells (response : Response) (method : String) (outcome : Except Fault Json) :
    Prop where
  succeeded : response.status = 200 ↔ ∃ value, outcome = .ok value
  unavailable : response.status = 503 ↔ outcome = .error (.pool .timedOut)
  failed : response.status = 500 ↔ ∃ fault, outcome = .error fault ∧ fault ≠ .pool .timedOut
  body : response.body =
    if method = "HEAD" then .empty else .json (Call.shown response.status outcome)

namespace Application

lemma body_report (outcome : Except Fault Json) :
    (report outcome).body = .json (Call.shown (report outcome).status outcome) := by
  cases outcome with
  | ok value => rfl
  | error fault => rfl

lemma tells_dressed (app : Application) (m : Moment) (r : Request) (outcome : Except Fault Json) :
    (app.dressed m r (report outcome)).Tells r.method outcome := by
  have hstatus := app.dressed_status m (r := r) (report outcome)
  have hbody : (app.dressed m r (report outcome)).body = if r.method = "HEAD" then .empty
      else .json (Call.shown (app.dressed m r (report outcome)).status outcome) := by
    rw [hstatus]
    by_cases hmethod : r.method = "HEAD"
    · rw [if_pos hmethod, dressed, bodyFor, if_pos hmethod]
      rfl
    · rw [if_neg hmethod, dressed_body _ _ hmethod]
      exact body_report outcome
  rcases report_cases outcome with ⟨value, rfl, hreport⟩ | ⟨rfl, hreport⟩ |
    ⟨fault, rfl, hfault, hreport⟩
  · rw [hreport] at hstatus
    exact ⟨by simp [hstatus], by simp [hstatus], by simp [hstatus], hbody⟩
  · rw [hreport] at hstatus
    exact ⟨by simp [hstatus], by simp [hstatus], by simp [hstatus], hbody⟩
  · rw [hreport] at hstatus
    exact ⟨by simp [hstatus], by simp [hstatus, hfault], by simp [hstatus, hfault], hbody⟩

/-- A request that reaches a search or a lookup is answered with 200 if the call succeeds, with 503
if it fails because the pool had no connection in time, and with 500 if it fails otherwise, where
the body of an error depends on the status alone. Databases that differ only in the texts of their
errors are sent the same statements, and every request gets the same answer from both, up to the
random identifier and the exposition of the metrics. -/
theorem failures_tell_only_their_kind (app : Application) :
    (∀ (m : Moment) (r : Request) (st : ServiceState) (c : Call), app.dispatch r = .call c →
      ((app.respond m r).run st).1.Tells r.method ((c.outcome app m).run (entered r st)).1) ∧
    ∀ (visits visits' : List Visit) (st st' : ServiceState),
      List.Forall₂ Visit.SameButMessages visits visits' → st.sent = st'.sent →
      let (exchanges, after) := (app.converse visits).run st
      let (exchanges', after') := (app.converse visits').run st'
      List.Forall₂ Exchange.Alike exchanges exchanges' ∧ after.sent = after'.sent := by
  constructor
  · intro m r st c hcall
    rw [run_respond_call app m st hcall]
    exact app.tells_dressed m r _
  · intro visits visits' st st' hvisits hsent
    exact app.relates_converse hvisits st st' hsent

/-- Databases that refuse everything for the same reason, each in its own words. -/
theorem failures_tell_only_their_kind_refusing :
    let refusing (message : String) : Database :=
      ⟨fun _ => none, fun _ _ => .refused "2201B" message⟩
    let app : Application := ⟨.ofSettings {} 30, refusing "regular expression is invalid", ⟨[]⟩,
      1048576, "catalog-search", fun _ => true⟩
    let m : Moment := ⟨"a48e1f2c", 0, 0⟩
    let sources : Request := ⟨"GET", ⟨"/api/v1/advsearch/sources", none⟩, [], []⟩
    let fields : Request := ⟨"GET", ⟨"/api/v1/advsearch/fields", some "tables=("⟩, [], []⟩
    let health : Request := ⟨"GET", ⟨"/health", none⟩, [], []⟩
    let visits (message : String) : List Visit :=
      [fields, health, sources].map fun r => ⟨r, m, refusing message⟩
    ((app.respond m sources).run {}).1.status = 500 ∧
      List.Forall₂ Exchange.Alike ((app.converse (visits "parentheses not balanced")).run {}).1
        ((app.converse (visits "brackets not balanced")).run {}).1 := by
  intro refusing app m sources fields health visits
  obtain ⟨hcalls, hconversations⟩ := failures_tell_only_their_kind app
  have hfault : ((Call.outcome app m (.lookup .sources)).run (entered sources {})).1 =
      .error (.server "2201B" "regular expression is invalid") := rfl
  have hrefusing (message message' : String) :
      (refusing message).SameButMessages (refusing message') :=
    ⟨rfl, fun _ _ => .refused "2201B" message message'⟩
  have hvisits (message message' : String) :
      List.Forall₂ Visit.SameButMessages (visits message) (visits message') := by
    rw [List.forall₂_map_left_iff, List.forall₂_map_right_iff, List.forall₂_same]
    exact fun r _ => ⟨rfl, hrefusing message message'⟩
  exact ⟨(hcalls m sources {} (.lookup .sources) rfl).failed.mpr ⟨_, hfault, by decide⟩,
    (hconversations _ _ {} {} (hvisits _ _) rfl).1⟩

end Application

end FacetSearch
