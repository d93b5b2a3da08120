import FacetSearch.Proofs.Database.Observation
import FacetSearch.Proofs.Http.Query
import FacetSearch.Proofs.Http.Response

/-!
# The two forms of a search

Options of a search are sent in the body of a request, or form-encoded in its query. Both requests
come to one and the same search, which sees nothing of the difference in the state that counting
requests makes.
-/

namespace FacetSearch

/-- The states agree in what searches read and change. -/
structure ServiceState.SameSearches (a b : ServiceState) : Prop where
  sent : a.sent = b.sent
  hash : a.metrics.hash = b.metrics.hash
  searches : a.metrics.searches = b.metrics.searches
  searchSeconds : a.metrics.searchSeconds = b.metrics.searchSeconds
  searchMatches : a.metrics.searchMatches = b.metrics.searchMatches

/-- In states that agree for searches the computation gives the same, and they still agree after
it. -/
def Service.IsUniform {α : Type} (x : Service α) : Prop :=
  ∀ a b : ServiceState, a.SameSearches b →
    (x.run a).1 = (x.run b).1 ∧ (x.run a).2.SameSearches (x.run b).2

namespace Service.IsUniform

variable {α β : Type}

lemma pure (v : α) : IsUniform (pure v) := fun _ _ h => ⟨rfl, h⟩

lemma bind {x : Service α} {f : α → Service β} (hx : IsUniform x) (hf : ∀ v, IsUniform (f v)) :
    IsUniform (x >>= f) := by
  intro a b h
  obtain ⟨hvalue, hstate⟩ := hx a b h
  rw [StateT.run_bind, StateT.run_bind]
  rcases hrun : x.run a with ⟨v, after⟩
  rcases hrun' : x.run b with ⟨v', after'⟩
  rw [hrun, hrun'] at hvalue hstate
  obtain rfl : v = v' := hvalue
  exact hf v after after' hstate

lemma ofSession (session : Session α) : IsUniform (ofSession session) := by
  intro a b h
  rw [run_ofSession, run_ofSession, h.sent]
  exact ⟨rfl, rfl, h.hash, h.searches, h.searchSeconds, h.searchMatches⟩

lemma recordSearch (search : SearchLabels) (status : String) (seconds : Float) :
    IsUniform (record (Registry.recordSearch search status seconds)) := by
  intro a b h
  have hsearches : (a.metrics.recordSearch search status seconds).searches =
      (b.metrics.recordSearch search status seconds).searches := by
    simp only [Registry.recordSearch, h.hash, h.searches]
  have hseconds : (a.metrics.recordSearch search status seconds).searchSeconds =
      (b.metrics.recordSearch search status seconds).searchSeconds := by
    simp only [Registry.recordSearch, h.hash, h.searchSeconds]
  exact ⟨rfl, h.sent, h.hash, hsearches, hseconds, h.searchMatches⟩

lemma recordMatches (domain : String) (count : Int) :
    IsUniform (record (Registry.recordMatches domain count)) := by
  intro a b h
  have hmatches : (a.metrics.recordMatches domain count).searchMatches =
      (b.metrics.recordMatches domain count).searchMatches := by
    simp only [Registry.recordMatches, h.hash, h.searchMatches]
  exact ⟨rfl, h.sent, h.hash, h.searches, h.searchSeconds, hmatches⟩

lemma observed (search : SearchLabels) (seconds : Float) (session : Session (ResultPage α)) :
    IsUniform (SearchEngine.observed search seconds session) := by
  refine (ofSession session).bind fun result => ?_
  cases result with
  | ok page =>
    exact (recordSearch _ _ _).bind fun _ => (recordMatches _ _).bind fun _ => pure _
  | error fault => exact (recordSearch _ _ _).bind fun _ => pure _

end Service.IsUniform

namespace SearchEngine

variable (e : SearchEngine) (db : Database) (options : Json) (w : PageWindow) (seconds : Float)

lemma isUniform_searchDatasets : (e.searchDatasets db options w seconds).IsUniform := by
  unfold searchDatasets
  split
  · exact (Service.IsUniform.recordSearch _ _ _).bind fun _ => .pure _
  · exact Service.IsUniform.observed _ _ _

lemma isUniform_searchFlows : (e.searchFlows db options w seconds).IsUniform := by
  unfold searchFlows
  split
  · exact (Service.IsUniform.recordSearch _ _ _).bind fun _ => .pure _
  · exact Service.IsUniform.observed _ _ _

end SearchEngine

/-- The parts of a request that is built. -/
lemma Request.of_build? {method uri : String} {headers : List (String × Bytes)} {body : Bytes}
    {r : Request} (h : build? method uri headers body = some r) :
    r.method = method ∧ Uri.parse? uri = some r.uri ∧ r.body = body := by
  rw [build?] at h
  split at h
  · obtain ⟨target, htarget, h⟩ := Option.bind_eq_some_iff.mp h
    obtain ⟨fields, -, h⟩ := Option.bind_eq_some_iff.mp h
    obtain rfl := Option.some.inj h
    exact ⟨rfl, htarget, rfl⟩
  · cases h

namespace Application

variable (app : Application) (m : Moment) (forFlows : Bool)

/-- A search for flows and jobs, or for datasets. -/
def search (options : Json) (page : PageRequest) : Service Response :=
  if forFlows then app.searchFlows m options page else app.searchDatasets m options page

lemma isUniform_search (options : Json) (page : PageRequest) :
    (app.search m forFlows options page).IsUniform := by
  cases forFlows with
  | true => exact (app.engine.isUniform_searchFlows _ _ _ _).bind fun _ => .pure _
  | false => exact (app.engine.isUniform_searchDatasets _ _ _ _).bind fun _ => .pure _

/-- A search with a text as its options, unless the page asked for cannot be read. -/
def answerSearch (page : Option PageRequest) (text : String) : Service Response :=
  match page with
  | none => return badParameters
  | some page => app.search m forFlows (options (.ofText text)) page

lemma isUniform_answerSearch (page : Option PageRequest) (text : String) :
    (app.answerSearch m forFlows page text).IsUniform := by
  cases page with
  | none => exact .pure _
  | some page => exact app.isUniform_search m forFlows _ _

/-- The path of searches with their options in the query. -/
def queryPath : String := Endpoint.searchRoot ++ if forFlows then "/search/flows" else "/search"

/-- The path of searches with their options in the body. -/
def bodyPath : String := Endpoint.searchRoot ++ if forFlows then "/flows" else "/datasets"

/-- The parts of a query in which a text of options stands between other parts. -/
def queryParts (before after : List String) (text : Option String) : List String :=
  before ++ (text.map (Form.part "searchOpts")).toList ++ after

variable {app m forFlows} {r : Request}

lemma route_queryPath (hmethod : r.method = "GET") (hpath : r.uri.path = queryPath forFlows) :
    app.route m r = searchByQuery (app.search m forFlows) r := by
  cases forFlows with
  | true =>
    rw [app.route_eq_run m (e := .getFlows) (by rw [hpath]; rfl) (by rw [hmethod]; rfl)]
    rfl
  | false =>
    rw [app.route_eq_run m (e := .getDatasets) (by rw [hpath]; rfl) (by rw [hmethod]; rfl)]
    rfl

lemma route_bodyPath (hmethod : r.method = "POST") (hpath : r.uri.path = bodyPath forFlows) :
    app.route m r = app.searchByBody (app.search m forFlows) r := by
  cases forFlows with
  | true =>
    rw [app.route_eq_run m (e := .postFlows) (by rw [hpath]; rfl) (by rw [hmethod]; rfl)]
    rfl
  | false =>
    rw [app.route_eq_run m (e := .postDatasets) (by rw [hpath]; rfl) (by rw [hmethod]; rfl)]
    rfl

/-- A request whose URI is made of parts has the parameters of these parts. -/
lemma parameters_eq {path : String} {parts : List String}
    (huri : Uri.parse? (Uri.text path parts) = some r.uri)
    (hroot : path.toList.head? = some '/') (hpath : ∀ c ∈ path.toList, Uri.isPathChar c)
    (hparts : ∀ part ∈ parts, ∀ c ∈ part.toList, Uri.isQueryChar c) :
    r.uri.path = path ∧
      parameters r = parts.flatMap fun part => Form.parse (.ofText part) := by
  have hlength : (Uri.text path parts).utf8ByteSize ≤ Uri.maxLength := by
    by_contra hlong
    rw [Uri.parse?, if_neg hlong] at huri
    cases huri
  rw [Uri.parse?_text hroot hpath hparts hlength] at huri
  have hread := Option.some.inj huri
  rw [parameters, ← hread]
  exact ⟨rfl, Form.parse_query parts⟩

lemma parameters_queryParts (before after : List String) (text : Option String) :
    ((queryParts before after text).flatMap fun part => Form.parse (.ofText part)) =
      (before.flatMap fun part => Form.parse (.ofText part)) ++
        (text.map ("searchOpts", ·)).toList ++
        after.flatMap fun part => Form.parse (.ofText part) := by
  have hname : Form.decode (.ofText "searchOpts") = "searchOpts" := by
    have hself : Form.encode "searchOpts" = "searchOpts" := by decide
    calc Form.decode (.ofText "searchOpts")
        = Form.decode (.ofText (Form.encode "searchOpts")) := by rw [hself]
      _ = "searchOpts" := Form.decode_encode _
  rw [queryParts, List.flatMap_append, List.flatMap_append]
  cases text with
  | none => rfl
  | some text =>
    have hpart : Form.parse (.ofText (Form.part "searchOpts" text)) = [("searchOpts", text)] := by
      rw [Form.parse_part (by decide) (by decide), hname]
    simp [hpart]

lemma isQueryChar_queryParts {before after : List String} {text : Option String}
    (h : ∀ part ∈ before ++ after, ∀ c ∈ part.toList, Uri.isQueryChar c) :
    ∀ part ∈ queryParts before after text, ∀ c ∈ part.toList, Uri.isQueryChar c := by
  have hname : ∀ c ∈ ("searchOpts" ++ "=").toList, Uri.isQueryChar c :=
    List.all_eq_true.mp (by decide)
  have hgiven (s : String) : ∀ c ∈ (Form.part "searchOpts" s).toList, Uri.isQueryChar c := by
    intro c hc
    rw [Form.part, String.toList_append] at hc
    rcases List.mem_append.mp hc with hc | hc
    · exact hname c hc
    · exact Form.isQueryChar_encode s c hc
  intro part hpart
  rw [queryParts, List.mem_append, List.mem_append] at hpart
  rcases hpart with (hpart | hpart) | hpart
  · exact h part (List.mem_append_left _ hpart)
  · obtain ⟨s, -, rfl⟩ := Option.map_eq_some_iff.mp (Option.mem_toList.mp hpart)
    exact hgiven s
  · exact h part (List.mem_append_right _ hpart)

/-- The page asked for does not depend on the options, which are read from among the others. -/
lemma pageRequest?_given {ps qs : List (String × String)}
    (h : "searchOpts" ∉ (ps ++ qs).map Prod.fst) (text : Option String) :
    pageRequest? (ps ++ (text.map ("searchOpts", ·)).toList ++ qs) = pageRequest? (ps ++ qs) ∧
      Form.single? (ps ++ (text.map ("searchOpts", ·)).toList ++ qs) "searchOpts" = some text := by
  cases text with
  | none =>
    rw [Option.map_none, Option.toList_none, List.append_nil]
    exact ⟨rfl, Form.single?_absent h⟩
  | some text =>
    have hgiven : ps ++ ((some text).map ("searchOpts", ·)).toList ++ qs =
        ps ++ ("searchOpts", text) :: qs := by simp
    have hother {other : String} (hne : "searchOpts" ≠ other) :
        integer? (ps ++ ("searchOpts", text) :: qs) other = integer? (ps ++ qs) other := by
      rw [integer?, integer?, Form.single?_other hne]
    rw [hgiven, pageRequest?, pageRequest?, hother (by decide), hother (by decide)]
    exact ⟨rfl, Form.single?_given h text⟩

/-- A search whose options are sent in the query of a GET request and the one whose options are the
body of a POST request, with the same other parameters in their queries, are one search. The
responses have the same status and the same body, the same commands are sent, and the metrics of
searches change in the same way. No options in the query are the same as an empty body. -/
theorem query_form_eq_body_form (app : Application) {m m' : Moment}
    (hseconds : m.searchSeconds = m'.searchSeconds) (st : ServiceState) (forFlows : Bool)
    {before after : List String} {text : Option String} {headers headers' : List (String × Bytes)}
    {body : Bytes} {get post : Request}
    (hchars : ∀ part ∈ before ++ after, ∀ c ∈ part.toList, Uri.isQueryChar c)
    (hothers : "searchOpts" ∉
      ((before ++ after).flatMap fun part => Form.parse (.ofText part)).map Prod.fst)
    (hsize : (Bytes.ofText (text.getD "")).length ≤ app.maxBodySize)
    (hget : Request.build? "GET" (Uri.text (queryPath forFlows) (queryParts before after text))
      headers body = some get)
    (hpost : Request.build? "POST" (Uri.text (bodyPath forFlows) (before ++ after)) headers'
      (.ofText (text.getD "")) = some post) :
    let (found, afterGet) := (app.respond m get).run st
    let (found', afterPost) := (app.respond m' post).run st
    found.status = found'.status ∧ found.body = found'.body ∧
      afterGet.SameSearches afterPost := by
  obtain ⟨hgetMethod, hgetUri, -⟩ := Request.of_build? hget
  obtain ⟨hpostMethod, hpostUri, hpostBody⟩ := Request.of_build? hpost
  have hquery : ∀ part ∈ queryParts before after text, ∀ c ∈ part.toList, Uri.isQueryChar c :=
    isQueryChar_queryParts hchars
  obtain ⟨hgetPath, hgetParameters⟩ := parameters_eq hgetUri (by cases forFlows <;> rfl)
    (List.all_eq_true.mp (by cases forFlows <;> rfl)) hquery
  obtain ⟨hpostPath, hpostParameters⟩ := parameters_eq hpostUri (by cases forFlows <;> rfl)
    (List.all_eq_true.mp (by cases forFlows <;> rfl)) hchars
  rw [parameters_queryParts] at hgetParameters
  rw [List.flatMap_append] at hpostParameters hothers
  obtain ⟨hpage, htext⟩ := pageRequest?_given hothers text
  have hsearch : app.search m forFlows = app.search m' forFlows := by
    funext options page
    rw [search, search, searchFlows, searchFlows, searchDatasets, searchDatasets, hseconds]
  have hrouteGet : app.route m get =
      app.answerSearch m' forFlows (pageRequest? (parameters post)) (text.getD "") := by
    rw [route_queryPath hgetMethod hgetPath, searchByQuery, hgetParameters, hpage, htext,
      hpostParameters, hsearch]
    cases pageRequest? _ <;> rfl
  have hroutePost : app.route m' post =
      app.answerSearch m' forFlows (pageRequest? (parameters post)) (text.getD "") := by
    rw [route_bodyPath hpostMethod hpostPath, searchByBody, hpostBody]
    simp only [if_neg (Nat.not_lt.mpr hsize)]
    cases pageRequest? _ <;> rfl
  have hentered : (entered get st).SameSearches (entered post st) :=
    ⟨rfl, rfl, rfl, rfl, rfl⟩
  obtain ⟨hresponse, hsame⟩ := app.isUniform_answerSearch m' forFlows
    (pageRequest? (parameters post)) (text.getD "") _ _ hentered
  have hne : get.method ≠ "OPTIONS" ∧ post.method ≠ "OPTIONS" := by
    rw [hgetMethod, hpostMethod]
    decide
  have hbodies : get.method ≠ "HEAD" ∧ post.method ≠ "HEAD" := by
    rw [hgetMethod, hpostMethod]
    decide
  rw [run_respond app m st hne.1, run_respond app m' st hne.2, hrouteGet, hroutePost]
  rcases hrun : (app.answerSearch m' forFlows (pageRequest? (parameters post))
    (text.getD "")).run (entered get st) with ⟨response, after⟩
  rcases hrun' : (app.answerSearch m' forFlows (pageRequest? (parameters post))
    (text.getD "")).run (entered post st) with ⟨response', after'⟩
  rw [hrun, hrun'] at hresponse hsame
  obtain rfl : response = response' := hresponse
  refine ⟨?_, ?_, hsame.sent, hsame.hash, hsame.searches, hsame.searchSeconds,
    hsame.searchMatches⟩
  · rw [dressed_status, dressed_status]
  · rw [dressed_body _ _ hbodies.1, dressed_body _ _ hbodies.2]

/-- The options of a search for tables, in a query behind a page and its size. -/
theorem query_form_eq_body_form_tables :
    let app : Application := ⟨.ofSettings {} 30, ⟨fun _ => none, fun _ _ => .rows []⟩,
      ⟨[]⟩, 1048576, "catalog-search", fun _ => true⟩
    let text := "\x7b\"table\":\x7b\"in\":\"table_01\"\x7d\x7d"
    ∃ get post,
      Request.build? "GET" (Uri.text (queryPath false)
        (queryParts ["page=1", "size=5"] [] (some text))) [] [] = some get ∧
      Request.build? "POST" (Uri.text (bodyPath false) ["page=1", "size=5"]) [] (.ofText text) =
        some post ∧
      let (found, afterGet) := (app.respond ⟨"a48e1f2c", 0, 0⟩ get).run {}
      let (found', afterPost) := (app.respond ⟨"5d09c3b7", 0, 0⟩ post).run {}
      found.status = found'.status ∧ found.body = found'.body ∧
        afterGet.SameSearches afterPost := by
  intro app text
  have hget : Request.build? "GET" (Uri.text (queryPath false)
      (queryParts ["page=1", "size=5"] [] (some text))) [] [] =
      some ⟨"GET", ⟨"/api/v1/advsearch/search", some ("page=1&size=5&searchOpts=" ++
        "%7B%22table%22%3A%7B%22in%22%3A%22table_01%22%7D%7D")⟩, [], []⟩ := by
    decide +kernel
  have hpost : Request.build? "POST" (Uri.text (bodyPath false) ["page=1", "size=5"]) []
      (.ofText text) =
      some ⟨"POST", ⟨"/api/v1/advsearch/datasets", some "page=1&size=5"⟩, [], .ofText text⟩ := by
    decide +kernel
  have hchars : ∀ part ∈ ["page=1", "size=5"], ∀ c ∈ part.toList, Uri.isQueryChar c := by
    rw [List.forall_mem_cons, List.forall_mem_singleton]
    exact ⟨List.all_eq_true.mp (by decide), List.all_eq_true.mp (by decide)⟩
  exact ⟨_, _, hget, hpost, query_form_eq_body_form app rfl {} false hchars
    (by decide +kernel) (by decide) hget hpost⟩

end Application

end FacetSearch
