import FacetSearch.Proofs.Http.Response

/-!
# Header fields of responses

Endpoints tell the type of what they answer and the methods of a path. Every other field of a
response is set by a layer, and each layer sets its own.
-/

namespace FacetSearch

namespace Response

/-- All fields have names of the list. -/
def NamesWithin (response : Response) (names : List String) : Prop :=
  ∀ field ∈ response.headers, field.1 ∈ names

variable {response : Response} {names names' : List String} {name : String}

lemma NamesWithin.mono (h : response.NamesWithin names) (hnames : names ⊆ names') :
    response.NamesWithin names' := fun field hfield => hnames (h field hfield)

lemma NamesWithin.withHeader (h : response.NamesWithin names) (hname : name ∈ names)
    (value : Bytes) : (response.withHeader name value).NamesWithin names := by
  intro field hfield
  rcases Headers.mem_set.mp hfield with ⟨hold, -⟩ | rfl
  · exact h field hold
  · exact hname

lemma NamesWithin.values_eq_nil (h : response.NamesWithin names) (hname : name ∉ names) :
    response.headers.values name = [] :=
  Headers.values_eq_nil_iff.mpr fun field hfield heq => hname (heq ▸ h field hfield)

lemma namesWithin_empty (status : Nat) (names : List String) :
    (Response.empty status).NamesWithin names := fun _ hfield => nomatch hfield

end Response

namespace Service

variable {α β : Type}

/-- From every state, the computation gives a value with the property. -/
def Always (p : α → Prop) (x : Service α) : Prop := ∀ st : ServiceState, p (x.run st).1

variable {p : β → Prop}

lemma Always.pure {v : β} (h : p v) : Always p (pure v) := fun _ => h

lemma Always.bind {x : Service α} {f : α → Service β} (hf : ∀ v, Always p (f v)) :
    Always p (x >>= f) := by
  intro st
  rw [StateT.run_bind]
  exact hf _ _

end Service

/-! ## Endpoints -/

/-- The names of the fields that endpoints set. -/
def endpointFields : List String := ["content-type", "allow"]

namespace Application

open Service

variable (app : Application) (m : Moment) (r : Request)

lemma namesWithin_contentType {status : Nat} {value : Bytes} {body : Body} :
    Response.NamesWithin ⟨status, [(Response.contentType, value)], body⟩ endpointFields := by
  intro field hfield
  obtain rfl := List.mem_singleton.mp hfield
  exact List.mem_cons_self

lemma namesWithin_json (status : Nat) (value : Json) :
    (Response.json status value).NamesWithin endpointFields :=
  namesWithin_contentType

lemma namesWithin_text (status : Nat) (content : String) :
    (Response.text status content).NamesWithin endpointFields :=
  namesWithin_contentType

lemma namesWithin_result {α : Type} (encode : α → Json) (found : Except Fault α) :
    (result encode found).NamesWithin endpointFields := by
  cases found with
  | ok a => exact namesWithin_json _ _
  | error fault => exact namesWithin_json _ _

lemma always_searchDatasets (options : Json) (page : PageRequest) :
    Always (·.NamesWithin endpointFields) (app.searchDatasets m options page) :=
  .bind fun _ => .pure (namesWithin_result _ _)

lemma always_searchFlows (options : Json) (page : PageRequest) :
    Always (·.NamesWithin endpointFields) (app.searchFlows m options page) :=
  .bind fun _ => .pure (namesWithin_result _ _)

lemma always_lookup (l : Lookup) : Always (·.NamesWithin endpointFields) (app.lookup l) :=
  .bind fun _ => .pure (namesWithin_result _ _)

lemma always_searchByBody {search : Json → PageRequest → Service Response}
    (h : ∀ options page, Always (·.NamesWithin endpointFields) (search options page)) :
    Always (·.NamesWithin endpointFields) (app.searchByBody search r) := by
  unfold searchByBody
  split
  · exact .pure (namesWithin_text _ _)
  · split
    · exact .pure (namesWithin_text _ _)
    · exact h _ _

lemma always_searchByQuery {search : Json → PageRequest → Service Response}
    (h : ∀ options page, Always (·.NamesWithin endpointFields) (search options page)) :
    Always (·.NamesWithin endpointFields) (searchByQuery search r) := by
  unfold searchByQuery
  split
  · exact h _ _
  · exact .pure (namesWithin_text _ _)

lemma always_lookupAmong (name : String) (l : Option String → Lookup) :
    Always (·.NamesWithin endpointFields) (app.lookupAmong name l r) := by
  unfold lookupAmong
  split
  · exact .pure (namesWithin_text _ _)
  · exact app.always_lookup _

lemma always_health : Always (·.NamesWithin endpointFields) app.health := by
  refine .bind fun answer => ?_
  cases answer with
  | ok => exact .pure (namesWithin_json _ _)
  | error => exact .pure (namesWithin_json _ _)

lemma always_run (e : Endpoint) : Always (·.NamesWithin endpointFields) (app.run m e r) := by
  cases e with
  | health => exact app.always_health
  | metrics => exact fun st => namesWithin_contentType
  | postDatasets => exact app.always_searchByBody r (app.always_searchDatasets m)
  | postFlows => exact app.always_searchByBody r (app.always_searchFlows m)
  | getDatasets => exact always_searchByQuery r (app.always_searchDatasets m)
  | getFlows => exact always_searchByQuery r (app.always_searchFlows m)
  | tables | fields | flowNames => exact app.always_lookupAmong r _ _
  | sources | scopes | appCodes | jobNames => exact app.always_lookup _

/-- Whatever becomes of a request, its endpoint sets no other fields. -/
lemma always_route : Always (·.NamesWithin endpointFields) (app.route m r) := by
  unfold route
  cases Endpoint.ofPath? r.uri.path with
  | none => exact .pure (Response.namesWithin_empty _ _)
  | some e =>
    by_cases hmethod : e.accepts r.method = true
    · simp only [if_pos hmethod]
      exact app.always_run m r e
    · simp only [if_neg hmethod]
      exact .pure ((Response.namesWithin_empty _ _).withHeader (by decide) _)

end Application

/-! ## Layers -/

namespace Cors

lemma namesWithin_allowOrigin (c : Cors) (r : Request) {response : Response}
    {names : List String} (h : response.NamesWithin names) (horigin : originHeader ∈ names) :
    (c.allowOrigin r response).NamesWithin names := by
  unfold allowOrigin
  split
  · split
    · exact h.withHeader horigin _
    · exact h
  · exact h

end Cors

namespace RequestId

variable (fresh : String) (r : Request) {response : Response}

lemma namesWithin_tag {names : List String} (h : response.NamesWithin names)
    (hheader : header ∈ names) (hcorrelation : correlationHeader ∈ names) :
    (tag fresh r response).NamesWithin names := by
  unfold tag
  split
  · exact (h.withHeader hheader _).withHeader hcorrelation _
  · exact h.withHeader hheader _

lemma values_tag_of_ne (response : Response) {name : String} (hheader : name ≠ header)
    (hcorrelation : name ≠ correlationHeader) :
    (tag fresh r response).headers.values name = response.headers.values name := by
  have hset : (response.withHeader header (.ofText fresh)).headers.values name =
      response.headers.values name := Headers.values_set_of_ne _ _ hheader
  unfold tag
  split
  · exact (Headers.values_set_of_ne _ _ hcorrelation).trans hset
  · exact hset

lemma values_tag_correlation (h : response.headers.values correlationHeader = []) :
    (tag fresh r response).headers.values correlationHeader = (ofClient? r.headers).toList := by
  unfold tag
  cases ofClient? r.headers with
  | none => exact (Headers.values_set_of_ne _ _ (by decide)).trans h
  | some id => exact Headers.values_set_self _ _ _

end RequestId

end FacetSearch
