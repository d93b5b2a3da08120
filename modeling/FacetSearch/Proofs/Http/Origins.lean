import FacetSearch.Proofs.Http.Fields
import FacetSearch.Proofs.Http.Identifier
import FacetSearch.Proofs.Text.Bytes
import FacetSearch.Settings.Problem

/-!
# Origins that may read responses

A service takes the legal ones among the origins it is configured with, unless one of them is the
wildcard: then there is no service, though nothing is wrong with its settings. The responses of a
service name an origin just to requests from it.
-/

namespace FacetSearch

namespace Cors

/-- The origins that can stand in a header. -/
def legal (origins : List String) : List String :=
  origins.filter fun origin => Headers.isLegalValue (.ofText origin)

lemma map_ofText_legal (origins : List String) :
    (origins.map Bytes.ofText).filter Headers.isLegalValue = (legal origins).map .ofText := by
  rw [legal, List.filter_map]
  rfl

lemma wildcard_mem_legal_iff (origins : List String) :
    wildcard ∈ (legal origins).map .ofText ↔ "*" ∈ origins := by
  have hlegal : Headers.isLegalValue (.ofText "*") = true := by decide
  constructor
  · intro hmem
    obtain ⟨origin, horigin, htext⟩ := List.mem_map.mp hmem
    obtain rfl := Bytes.ofText_inj.mp htext
    exact (List.mem_filter.mp horigin).1
  · intro hmem
    exact List.mem_map_of_mem (List.mem_filter.mpr ⟨hmem, hlegal⟩)

lemma ofOrigins?_eq (origins : List String) :
    ofOrigins? origins =
      if "*" ∈ origins then none else some ⟨(legal origins).map .ofText⟩ := by
  unfold ofOrigins?
  simp only [map_ofText_legal, wildcard_mem_legal_iff]

end Cors

namespace Settings

/-- The settings with other origins. -/
def withOrigins (s : Settings) (origins : List String) : Settings :=
  { s with server := { s.server with corsOrigins := origins } }

/-- No origin is a problem. -/
lemma problem?_withOrigins (s : Settings) (origins : List String) :
    (s.withOrigins origins).problem? = s.problem? := rfl

end Settings

namespace Application

lemma build?_eq_map (s : Settings) (db : Database) (validPattern : String → Bool) :
    ∃ serve : Cors → Application, (∀ c, (serve c).cors = c) ∧
      ∀ origins, build? (s.withOrigins origins) db validPattern =
        (Cors.ofOrigins? origins).map serve := by
  refine ⟨fun cors => ⟨.ofSettings s.search s.database.statementTimeoutSeconds, db, cors,
    s.server.maxBodySize, s.logging.serviceName, validPattern⟩, fun _ => rfl, fun _ => rfl⟩

/-- There is a service for settings exactly if the wildcard is not among their origins, and then it
allows the legal ones of them. Whether there is a problem with the settings does not depend on their
origins, so that the wildcard is no problem. -/
theorem served_unless_wildcard (s : Settings) (db : Database) (validPattern : String → Bool) :
    (build? s db validPattern).map (·.cors.origins) =
        (if "*" ∈ s.server.corsOrigins then none
        else some ((Cors.legal s.server.corsOrigins).map .ofText)) ∧
      ∀ origins, (s.withOrigins origins).problem? = s.problem? := by
  refine ⟨?_, s.problem?_withOrigins⟩
  obtain ⟨serve, hcors, hbuild⟩ := build?_eq_map s db validPattern
  have hserved : build? s db validPattern = (Cors.ofOrigins? s.server.corsOrigins).map serve :=
    hbuild s.server.corsOrigins
  rw [hserved, Cors.ofOrigins?_eq]
  by_cases hwildcard : "*" ∈ s.server.corsOrigins
  · rw [if_pos hwildcard, if_pos hwildcard]
    rfl
  · rw [if_neg hwildcard, if_neg hwildcard, Option.map_some, Option.map_some, hcors]

/-- Default settings with the wildcard for their only origin. -/
theorem wildcard_valid_but_unserved :
    let s : Settings := { server := { corsOrigins := ["*"] } }
    s.problem? = none ∧ build? s ⟨fun _ => none, fun _ _ => .rows []⟩ (fun _ => true) = none := by
  exact ⟨by decide, rfl⟩

end Application

/-! ## Responses -/

/-- The request comes from the origin, byte for byte. -/
def Request.IsFrom (r : Request) (origin : String) : Prop :=
  r.headers.first? "origin" = some (.ofText origin)

instance (r : Request) (origin : String) : Decidable (r.IsFrom origin) :=
  inferInstanceAs (Decidable (_ = _))

/-- The response to a request tells the origin of the request to browsers if that is configured and
legal, and the methods and headers that are allowed if the request is for OPTIONS and any configured
origin is legal. Nothing else is allowed. -/
structure Response.HonoursOrigins (response : Response) (r : Request) (origins : List String) :
    Prop where
  named : ∀ value, response.headers.values "access-control-allow-origin" = [value] ↔
    ∃ origin ∈ Cors.legal origins, r.IsFrom origin ∧ value = .ofText origin
  unnamed : response.headers.values "access-control-allow-origin" = [] ↔
    ∀ origin ∈ Cors.legal origins, ¬ r.IsFrom origin
  methods : response.headers.values "access-control-allow-methods" =
    if r.method = "OPTIONS" ∧ Cors.legal origins ≠ [] then [.ofText "*"] else []
  headers : response.headers.values "access-control-allow-headers" =
    if r.method = "OPTIONS" ∧ Cors.legal origins ≠ [] then [.ofText "*"] else []
  others : ∀ field ∈ response.headers, "access-control-allow-".toList <+: field.1.toList →
    field.1 ∈ ["access-control-allow-origin", "access-control-allow-methods",
      "access-control-allow-headers"]

namespace Cors

variable {c : Cors} {r : Request} {response : Response}

lemma values_allowOrigin (h : response.headers.values originHeader = []) :
    (c.allowOrigin r response).headers.values originHeader =
      ((r.headers.first? "origin").filter (· ∈ c.origins)).toList := by
  unfold allowOrigin
  cases r.headers.first? "origin" with
  | none => exact h
  | some origin =>
    by_cases hallowed : origin ∈ c.origins
    · simp only [hallowed, if_true, Option.filter_some, decide_true]
      exact Headers.values_set_self _ _ _
    · simp only [hallowed, if_false, Option.filter_some, decide_false]
      exact h

/-- The names of the fields in answers to requests for OPTIONS. -/
def preflightFields : List String :=
  ["allow", "access-control-allow-origin", "access-control-allow-methods",
    "access-control-allow-headers"]

lemma namesWithin_announcing (allow : Option String) : (announcing allow).NamesWithin ["allow"] := by
  cases allow with
  | none => exact Response.namesWithin_empty _ _
  | some methods =>
    exact (Response.namesWithin_empty _ _).withHeader (List.mem_singleton_self _) _

lemma namesWithin_preflight (c : Cors) (allow : Option String) (r : Request) :
    (c.preflight allow r).NamesWithin preflightFields := by
  have hannouncing : (announcing allow).NamesWithin preflightFields :=
    (namesWithin_announcing allow).mono (by decide)
  rw [preflight_eq]
  split
  · exact hannouncing
  · exact ((c.namesWithin_allowOrigin r hannouncing (by decide)).withHeader (by decide) _).withHeader
      (by decide) _

lemma values_preflight_origin (c : Cors) (allow : Option String) (r : Request) :
    (c.preflight allow r).headers.values originHeader =
      ((r.headers.first? "origin").filter (· ∈ c.origins)).toList := by
  have hannouncing : (announcing allow).headers.values originHeader = [] :=
    (namesWithin_announcing allow).values_eq_nil (by decide)
  rw [preflight_eq]
  by_cases horigins : c.origins.isEmpty = true
  · have hnone : (r.headers.first? "origin").filter (· ∈ c.origins) = none := by
      simp [List.isEmpty_iff.mp horigins]
    rw [if_pos horigins, hannouncing, hnone]
    rfl
  · rw [if_neg horigins]
    simp only [Response.withHeader]
    rw [Headers.values_set_of_ne _ _ (by decide), Headers.values_set_of_ne _ _ (by decide)]
    exact values_allowOrigin hannouncing

lemma values_preflight_others (c : Cors) (allow : Option String) (r : Request) {name : String}
    (h : name ∈ ["access-control-allow-methods", "access-control-allow-headers"]) :
    (c.preflight allow r).headers.values name = if c.origins ≠ [] then [.ofText "*"] else [] := by
  rw [preflight_eq]
  by_cases horigins : c.origins = []
  · have hempty : c.origins.isEmpty = true := List.isEmpty_iff.mpr horigins
    have hname : name ∉ ["allow"] := by
      intro hallow
      rw [List.mem_singleton.mp hallow] at h
      exact absurd h (by decide)
    rw [if_pos hempty, if_neg (not_not_intro horigins)]
    exact (namesWithin_announcing allow).values_eq_nil hname
  · have hempty : ¬ c.origins.isEmpty = true := fun h => horigins (List.isEmpty_iff.mp h)
    rw [if_neg hempty, if_pos horigins]
    simp only [Response.withHeader]
    simp only [List.mem_cons, List.not_mem_nil, or_false] at h
    rcases h with rfl | rfl
    · rw [Headers.values_set_of_ne _ _ (by decide), Headers.values_set_self]
    · exact Headers.values_set_self _ _ _

end Cors

namespace Response.HonoursOrigins

variable {response : Response} {r : Request} {origins : List String}

lemma of_values
    (horigin : response.headers.values Cors.originHeader =
      ((r.headers.first? "origin").filter (· ∈ (Cors.legal origins).map Bytes.ofText)).toList)
    (hothers : ∀ name ∈ ["access-control-allow-methods", "access-control-allow-headers"],
      response.headers.values name =
        if r.method = "OPTIONS" ∧ Cors.legal origins ≠ [] then [.ofText "*"] else [])
    (hnames : ∀ field ∈ response.headers, "access-control-allow-".toList <+: field.1.toList →
      field.1 ∈ ["access-control-allow-origin", "access-control-allow-methods",
        "access-control-allow-headers"]) : response.HonoursOrigins r origins where
  named value := by
    have horigin' : response.headers.values "access-control-allow-origin" = _ := horigin
    rw [horigin', Option.toList_eq_singleton_iff, Option.filter_eq_some_iff, decide_eq_true_eq,
      List.mem_map]
    constructor
    · rintro ⟨hfirst, origin, hlegal, rfl⟩
      exact ⟨origin, hlegal, hfirst, rfl⟩
    · rintro ⟨origin, hlegal, hfrom, rfl⟩
      exact ⟨hfrom, origin, hlegal, rfl⟩
  unnamed := by
    have horigin' : response.headers.values "access-control-allow-origin" = _ := horigin
    rw [horigin', Option.toList_eq_nil_iff, Option.filter_eq_none_iff]
    constructor
    · intro hnone origin hlegal hfrom
      exact hnone _ hfrom (decide_eq_true (List.mem_map_of_mem hlegal))
    · intro hnone value hfirst hmem
      obtain ⟨origin, hlegal, rfl⟩ := List.mem_map.mp (of_decide_eq_true hmem)
      exact hnone origin hlegal hfirst
  methods := hothers _ (by decide)
  headers := hothers _ (by decide)
  others := hnames

lemma not_allowing (h : response.HonoursOrigins r origins) (hlegal : Cors.legal origins = []) :
    ∀ field ∈ response.headers, ¬ "access-control-allow-".toList <+: field.1.toList := by
  intro field hfield hbegins
  have hnone : ∀ name ∈ ["access-control-allow-origin", "access-control-allow-methods",
      "access-control-allow-headers"], response.headers.values name = [] := by
    intro name hname
    simp only [List.mem_cons, List.not_mem_nil, or_false] at hname
    rcases hname with rfl | rfl | rfl
    · exact h.unnamed.mpr fun origin horigin => by simp [hlegal] at horigin
    · rw [h.methods, if_neg fun hboth => hboth.2 hlegal]
    · rw [h.headers, if_neg fun hboth => hboth.2 hlegal]
  -- A field that is there is a value under its own name.
  have hvalues := hnone field.1 (h.others field hfield hbegins)
  exact Headers.values_eq_nil_iff.mp hvalues field hfield rfl

end Response.HonoursOrigins

namespace Application

variable (app : Application) (m : Moment) {r : Request} (st : ServiceState)

/-- The names of the fields in answers to other requests. -/
def passedFields : List String :=
  endpointFields ++ ["x-request-id", "x-correlation-id", "access-control-allow-origin"]

lemma namesWithin_dressed {response : Response} (h : response.NamesWithin endpointFields) :
    (app.dressed m r response).NamesWithin passedFields := by
  have htagged := RequestId.namesWithin_tag m.requestId r
    (h.mono (List.subset_append_left _ _) : response.NamesWithin passedFields) (by decide) (by decide)
  unfold Response.NamesWithin
  rw [dressed_headers]
  exact app.cors.namesWithin_allowOrigin r htagged (by decide)

lemma values_dressed_origin {response : Response} (h : response.NamesWithin endpointFields) :
    (app.dressed m r response).headers.values Cors.originHeader =
      ((r.headers.first? "origin").filter (· ∈ app.cors.origins)).toList := by
  have htagged : (RequestId.tag m.requestId r response).headers.values Cors.originHeader = [] := by
    rw [RequestId.values_tag_of_ne _ _ _ (by decide) (by decide)]
    exact h.values_eq_nil (by decide)
  rw [dressed_headers]
  exact Cors.values_allowOrigin htagged

lemma mem_of_allowing {names : List String}
    (hnames : ∀ name ∈ names, "access-control-allow-".toList.isPrefixOf name.toList = true →
      name ∈ ["access-control-allow-origin", "access-control-allow-methods",
        "access-control-allow-headers"])
    {response : Response} (h : response.NamesWithin names) :
    ∀ field ∈ response.headers, "access-control-allow-".toList <+: field.1.toList →
      field.1 ∈ ["access-control-allow-origin", "access-control-allow-methods",
        "access-control-allow-headers"] := fun field hfield hbegins =>
  hnames field.1 (h field hfield) (List.isPrefixOf_iff_prefix.mpr hbegins)

lemma honoursOrigins_respond {origins : List String}
    (h : app.cors.origins = (Cors.legal origins).map .ofText) :
    ((app.respond m r).run st).1.HonoursOrigins r origins := by
  have hempty : app.cors.origins ≠ [] ↔ Cors.legal origins ≠ [] := by
    rw [h, Ne, List.map_eq_nil_iff]
  by_cases hoptions : r.method = "OPTIONS"
  · rw [run_respond_options _ _ _ hoptions]
    refine .of_values ?_ (fun name hname => ?_) ?_
    · rw [Cors.values_preflight_origin, h]
    · rw [Cors.values_preflight_others _ _ _ hname]
      simp only [hoptions, hempty, true_and]
    · exact mem_of_allowing (by decide) (Cors.namesWithin_preflight _ _ _)
  · rw [run_respond _ _ _ hoptions]
    have hroute := app.always_route m r (entered r st)
    have hdressed := app.namesWithin_dressed m (r := r) hroute
    refine .of_values ?_ (fun name hname => ?_) ?_
    · rw [← h]
      exact app.values_dressed_origin m hroute
    · rw [if_neg fun hboth => hoptions hboth.1]
      exact hdressed.values_eq_nil (by revert name; decide)
    · exact mem_of_allowing (by decide) hdressed

/-- With origins that do not include the wildcard there is a service, and whatever the request, the
database and the state are, the response allows what the configured origins are allowed. Where none
of them is legal, it allows nothing. Configured origins that are not legal make no difference. -/
theorem only_configured_origins_allowed (s : Settings) (db : Database)
    (validPattern : String → Bool) (h : "*" ∉ s.server.corsOrigins) :
    ∃ app, build? s db validPattern = some app ∧
      (∀ (m : Moment) (r : Request) (st : ServiceState),
        let response := ((app.respond m r).run st).1
        response.HonoursOrigins r s.server.corsOrigins ∧
          (Cors.legal s.server.corsOrigins = [] →
            ∀ field ∈ response.headers, ¬ "access-control-allow-".toList <+: field.1.toList)) ∧
      ∀ origins, Cors.legal origins = Cors.legal s.server.corsOrigins →
        build? (s.withOrigins origins) db validPattern = some app := by
  obtain ⟨serve, hcors, hbuild⟩ := build?_eq_map s db validPattern
  have hserved (origins : List String)
      (hlegal : Cors.legal origins = Cors.legal s.server.corsOrigins) :
      build? (s.withOrigins origins) db validPattern =
        some (serve ⟨(Cors.legal s.server.corsOrigins).map .ofText⟩) := by
    have hwildcard : "*" ∉ origins := by
      rw [← Cors.wildcard_mem_legal_iff, hlegal, Cors.wildcard_mem_legal_iff]
      exact h
    rw [hbuild, Cors.ofOrigins?_eq, if_neg hwildcard, hlegal, Option.map_some]
  refine ⟨_, hserved s.server.corsOrigins rfl, ?_, hserved⟩
  intro m r st response
  have hhonours : response.HonoursOrigins r s.server.corsOrigins :=
    honoursOrigins_respond _ m st (congrArg Cors.origins (hcors _))
  exact ⟨hhonours, hhonours.not_allowing⟩

/-- Of three configured origins, one ends in a line feed and is not legal. -/
theorem only_configured_origins_allowed_mixed :
    let s : Settings := { server := { corsOrigins :=
      ["https://a.example", "https://b.example\n", "https://c.example"] } }
    let m : Moment := ⟨"a48e1f2c", 0, 0⟩
    let ask (method path origin : String) : Request :=
      ⟨method, ⟨path, none⟩, [("origin", .ofText origin)], []⟩
    "*" ∉ s.server.corsOrigins ∧
      ∃ app, build? s ⟨fun _ => some .timedOut, fun _ _ => .rows []⟩ (fun _ => true) = some app ∧
        ((app.respond m (ask "GET" "/nowhere" "https://c.example")).run {}).1.headers.values
          "access-control-allow-origin" = [.ofText "https://c.example"] ∧
        ((app.respond m (ask "GET" "/health" "https://b.example\n")).run {}).1.headers.values
          "access-control-allow-origin" = [] ∧
        ((app.respond m (ask "OPTIONS" "/health" "https://b.example")).run {}).1.headers.values
          "access-control-allow-methods" = [.ofText "*"] := by
  intro s m ask
  have hwildcard : "*" ∉ s.server.corsOrigins := by decide
  obtain ⟨app, hbuild, hresponses, -⟩ := only_configured_origins_allowed s
    ⟨fun _ => some .timedOut, fun _ _ => .rows []⟩ (fun _ => true) hwildcard
  refine ⟨hwildcard, app, hbuild, ?_, ?_, ?_⟩
  · exact ((hresponses m (ask "GET" "/nowhere" "https://c.example") {}).1.named _).mpr
      ⟨"https://c.example", by decide, rfl, rfl⟩
  · exact (hresponses m (ask "GET" "/health" "https://b.example\n") {}).1.unnamed.mpr (by decide)
  · rw [(hresponses m (ask "OPTIONS" "/health" "https://b.example") {}).1.methods]
    decide

end Application

end FacetSearch
