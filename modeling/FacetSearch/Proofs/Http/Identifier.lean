import FacetSearch.Proofs.Http.Response

/-!
# Identifiers of responses

An endpoint's response is given the identifier of its request on the way back. Requests for OPTIONS
are answered before they get so far.
-/

namespace FacetSearch

namespace Cors

/-- An empty response with the methods of a path, if it has any. -/
def announcing (allow : Option String) : Response :=
  match allow with
  | some methods => (Response.empty 200).withHeader "allow" (.ofText methods)
  | none => Response.empty 200

lemma preflight_eq (c : Cors) (allow : Option String) (r : Request) :
    c.preflight allow r =
      if c.origins.isEmpty then announcing allow
      else ((c.allowOrigin r (announcing allow)).withHeader "access-control-allow-methods"
        (.ofText "*")).withHeader "access-control-allow-headers" (.ofText "*") := by
  cases allow with
  | none => rfl
  | some methods => rfl

lemma first?_preflight (c : Cors) (allow : Option String) (r : Request) :
    (c.preflight allow r).headers.first? RequestId.header = none := by
  have hannouncing : (announcing allow).headers.first? RequestId.header = none := by
    cases allow with
    | none => rfl
    | some methods => exact Headers.first?_set_of_ne [] _ (by decide)
  rw [preflight_eq]
  split
  · exact hannouncing
  · have horigin : (c.allowOrigin r (announcing allow)).headers.first? RequestId.header =
        (announcing allow).headers.first? RequestId.header :=
      first?_allowOrigin c r _ (by decide)
    simp only [Response.withHeader]
    rw [Headers.first?_set_of_ne _ _ (by decide), Headers.first?_set_of_ne _ _ (by decide), horigin]
    exact hannouncing

end Cors

namespace Application

/-- Every response carries the fresh identifier of its request, whatever the service, its state and
the request are, except that the response to a request for OPTIONS carries none. -/
theorem identified_unless_options (app : Application) (m : Moment) (r : Request)
    (st : ServiceState) :
    ((app.respond m r).run st).1.headers.first? RequestId.header =
      if r.method = "OPTIONS" then none else some (.ofText m.requestId) := by
  by_cases hmethod : r.method = "OPTIONS"
  · rw [if_pos hmethod, run_respond_options app m st hmethod]
    exact Cors.first?_preflight _ _ _
  · rw [if_neg hmethod, run_respond app m st hmethod]
    rcases (app.route m r).run (entered r st) with ⟨response, after⟩
    have hheaders : (app.dressed m r response).headers.first? RequestId.header =
        some (.ofText m.requestId) := by
      rw [dressed_headers, Cors.first?_allowOrigin _ _ _ (by decide), RequestId.first?_tag]
    exact hheaders

/-- A preflight request for the health of a service with default settings is answered without an
identifier. -/
theorem preflight_unidentified :
    ∃ app r, build? {} ⟨fun _ => none, fun _ _ => .rows []⟩ (fun _ => true) = some app ∧
      Request.build? "OPTIONS" "/health" [] [] = some r ∧
      ((app.respond ⟨"a48e1f2c", 0, 0⟩ r).run {}).1.status = 200 ∧
      ((app.respond ⟨"a48e1f2c", 0, 0⟩ r).run {}).1.headers.first? RequestId.header = none := by
  exact ⟨_, _, rfl, rfl, rfl, rfl⟩

end Application

end FacetSearch
