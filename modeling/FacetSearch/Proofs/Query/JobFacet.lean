import FacetSearch.Database.Script
import FacetSearch.Proofs.Database.Reply
import FacetSearch.Proofs.Metrics.Searches
import FacetSearch.Proofs.Query.Names
import FacetSearch.Proofs.Sql.Clauses

/-!
# The job facet

A search is for jobs when its job facet has values, wanted or not. What is selected, the conditions,
the order, the metrics and the entities are each chosen on their own, and all of them alike.
-/

namespace FacetSearch

open Sql

/-- What a statement names when it is over jobs, and when it is over flows alone. -/
structure Statement.IsOver (jobs : Prop) (s : Statement) : Prop where
  relation : "flow_job".toList ∈ (tables (identifiers s.sql.toList)).map Prod.fst ↔ jobs
  mentions : "j".toList ∈ qualifiers (identifiers s.sql.toList) ↔ jobs
  mentions_beside : "j".toList ∈ qualifiers (besideFrom (identifiers s.sql.toList)) ↔ jobs
  declared : ∀ a ∈ qualifiers (identifiers s.sql.toList),
    a ∈ (tables (identifiers s.sql.toList)).map Prod.snd

namespace FlowFilter

/-- The values of the job facet that normalization leaves of the options. -/
def jobValues (options : Json) : List String :=
  sectionList (options.member? "job") "in" ++ sectionList (options.member? "job") "not"

variable {f : FlowFilter} {w : PageWindow}

lemma searchesJobs_iff : f.searchesJobs = true ↔ f.job.wanted ++ f.job.unwanted ≠ [] := by
  cases hwanted : f.job.wanted <;> simp [searchesJobs, ValueFacet.isEmpty, hwanted]

/-- The tables of a search with their aliases. -/
def tablesOf (f : FlowFilter) : List (List Char × List Char) :=
  (if f.searchesJobs then [("flow_job".toList, "j".toList)] else []) ++
    [("flow".toList, "f".toList), ("cfg_application".toList, "a".toList)]

/-- The columns that a search is ordered by. -/
def orderNames (f : FlowFilter) : List String :=
  ["a.app_code", "f.app_id", "f.flow_id"] ++ if f.searchesJobs then ["j.job_id"] else []

/-- The columns that the conditions of a search are about. -/
def conditionNames (f : FlowFilter) : List String :=
  ["a.app_code", "f.flow_name"] ++ if f.searchesJobs then ["j.job_name"] else []

lemma relation_query : (f.query w).relation = f.baseQuery.relation := by rw [query_eq]

lemma columns_query : (f.query w).columns = f.baseQuery.columns := by rw [query_eq]

lemma words_relation (f : FlowFilter) :
    (∀ v ∈ identifiers f.baseQuery.relation.toList, v ∉ laterClauses ∧ v ≠ "BY".toList) ∧
      ((identifiers f.baseQuery.relation.toList).splitOn "JOIN".toList).filterMap (fun
        | table :: as :: _ => some (table, as)
        | _ => none) = f.tablesOf ∧
      qualifiers (identifiers f.baseQuery.relation.toList) ⊆ f.tablesOf.map Prod.snd := by
  unfold baseQuery tablesOf
  cases f.searchesJobs with
  | false => decide +kernel
  | true => decide +kernel

lemma words_projection {projection : String}
    (h : projection ∈ [f.baseQuery.columns, "COUNT(*)", f.baseQuery.idColumn]) :
    (∀ v ∈ identifiers projection.toList, v ≠ "FROM".toList ∧ v ≠ "BY".toList) ∧
      qualifiers (identifiers projection.toList) ⊆ f.tablesOf.map Prod.snd := by
  revert projection
  unfold baseQuery tablesOf
  cases f.searchesJobs with
  | false => decide +kernel
  | true => decide +kernel

lemma names_conditions (f : FlowFilter) :
    Predicate.namesOfAll f.conditions ⊆ f.conditionNames := by
  have hmem : ∀ column ∈ f.conditionNames, ∀ m (facet : ValueFacet),
      Predicate.namesOfAll (facet.predicate? column m).toList ⊆ f.conditionNames := by
    intro column hcolumn m facet name hname
    rw [Predicate.namesOfAll_eq_flatMap] at hname
    obtain ⟨p, hp, hname⟩ := List.mem_flatMap.mp hname
    have hone := ValueFacet.names_predicate? _ _ _ p (Option.mem_toList.mp hp) hname
    exact List.mem_singleton.mp hone ▸ hcolumn
  have hjob : Predicate.namesOfAll (f.job.predicate? "j.job_name" .substring).toList ⊆
      f.conditionNames := by
    by_cases hjobs : f.searchesJobs = true
    · refine hmem "j.job_name" ?_ .substring f.job
      simp [conditionNames, hjobs]
    · rw [ValueFacet.predicate?_of_empty _ _ (not_not.mp (mt searchesJobs_iff.mpr hjobs))]
      exact List.nil_subset _
  have happCode := hmem "a.app_code" List.mem_cons_self .exact f.appCode
  have hflow := hmem "f.flow_name" (List.mem_cons_of_mem _ List.mem_cons_self) .substring f.flow
  rw [Predicate.namesOfAll_eq_flatMap] at happCode hflow hjob ⊢
  rw [conditions, List.flatMap_append, List.flatMap_append]
  exact List.append_subset_of_subset_of_subset
    (List.append_subset_of_subset_of_subset happCode hflow) hjob

/-- In a search for jobs the conditions mention them. -/
lemma mentions_whereText (hjobs : f.searchesJobs = true) :
    "j".toList ∈ qualifiers (identifiers (f.query w).whereText.toList) := by
  obtain ⟨p, hp, hsome, -⟩ :=
    ValueFacet.constrains_predicate? "j.job_name" .substring (searchesJobs_iff.mp hjobs)
  obtain ⟨c, hc⟩ := Option.isSome_iff_exists.mp hsome
  have hfilter : p ∈ (f.query w).filters := by
    rw [query_eq]
    exact List.mem_append_right _ (Option.mem_toList.mpr hp)
  obtain ⟨bound, htext⟩ := Query.exists_text_mem_conditionTexts hfilter hc
  have hname : "j.job_name".toList ∈ identifiers (c.text bound).toList :=
    ValueFacet.mentions_predicate? _ _ _ p hp c hc bound (by decide)
  have hmention := Query.mem_identifiers_whereText htext hname
  exact List.mem_map.mpr ⟨_, List.mem_filter.mpr ⟨hmention, by decide⟩, by decide⟩

/-- The words after the conditions of a page. -/
lemma identifiers_tailText (f : FlowFilter) (w : PageWindow) : ∃ rest, (∀ v ∈ rest, '.' ∉ v) ∧
    identifiers (f.query w).tailText.toList = "ORDER".toList :: "BY".toList ::
      (f.orderNames.map String.toList ++ "LIMIT".toList :: rest) := by
  let order := " ORDER BY " ++ ", ".intercalate f.orderNames
  have horder : ∀ bound, (f.query w).orderClause.text bound = order := by
    intro bound
    simp only [query_eq, Query.orderClause, order, FlowFilter.order, orderNames]
    cases f.searchesJobs with
    | false => rfl
    | true => rfl
  have hwords : identifiers order.toList =
      "ORDER".toList :: "BY".toList :: f.orderNames.map String.toList := by
    simp only [order, orderNames]
    cases f.searchesJobs with
    | false => decide +kernel
    | true => decide +kernel
  have hlimit : ∀ bound, ((f.query w).limitClause.text bound).toList =
      ' ' :: ("LIMIT".toList ++ ' ' :: ('$' :: ((toString (bound + 1)).toList ++
        ' ' :: ("OFFSET".toList ++ ' ' :: '$' :: (toString (bound + 2)).toList)))) := by
    intro bound
    simp [query_eq, Query.limitClause, Fragment.text]
  have hnumber : ∀ n : Nat, ∀ v ∈ identifiers (toString n).toList, '.' ∉ v := by
    intro n v hv hpoint
    obtain ⟨name, hname, -⟩ := (madeOf_number [] n).exists_name hv hpoint
    exact absurd hname List.not_mem_nil
  let bound := (f.query w).countStatement.binds.length + (f.query w).orderClause.binds.length
  refine ⟨identifiers (toString (bound + 1)).toList ++
    "OFFSET".toList :: identifiers (toString (bound + 2)).toList, ?_, ?_⟩
  · rw [List.forall_mem_append, List.forall_mem_cons]
    exact ⟨hnumber _, by decide, hnumber _⟩
  · rw [Query.tailText, Query.tail, Fragment.text_append, String.toList_append, horder, hlimit,
      identifiers_append_cons (by decide), hwords, identifiers_append_cons (by decide),
      identifiers_cons (by decide), identifiers_append_cons (by decide),
      identifiers_append_cons (by decide), identifiers_cons (by decide)]
    rfl

lemma qualifiers_tailText (f : FlowFilter) (w : PageWindow) :
    qualifiers (identifiers (f.query w).tailText.toList) ⊆ f.tablesOf.map Prod.snd := by
  obtain ⟨rest, hrest, hwords⟩ := f.identifiers_tailText w
  have hnames : qualifiers (f.orderNames.map String.toList) ⊆ f.tablesOf.map Prod.snd := by
    unfold orderNames tablesOf
    cases f.searchesJobs with
    | false => decide
    | true => decide
  rw [hwords, qualifiers_cons (by decide), qualifiers_cons (by decide), qualifiers_append,
    qualifiers_cons (by decide), qualifiers_of_unqualified hrest, List.append_nil]
  exact hnames

lemma madeOf_whereText (f : FlowFilter) (w : PageWindow) :
    MadeOf f.conditionNames (f.query w).whereText.toList := by
  have hwhere := (f.query w).madeOf_whereText
  rw [query_eq] at hwhere ⊢
  exact hwhere.mono f.names_conditions

lemma qualifiers_whereText (f : FlowFilter) (w : PageWindow) :
    qualifiers (identifiers (f.query w).whereText.toList) ⊆ f.tablesOf.map Prod.snd := by
  have hnames : f.conditionNames.flatMap (fun name => qualifiers (identifiers name.toList)) ⊆
      f.tablesOf.map Prod.snd := by
    unfold conditionNames tablesOf
    cases f.searchesJobs with
    | false => decide
    | true => decide
  exact List.Subset.trans (f.madeOf_whereText w).qualifiers_subset hnames

lemma fieldTerms_query (f : FlowFilter) (w : PageWindow) : (f.query w).fieldTerms = [] := by
  rw [query_eq, baseQuery]
  split <;> rfl

/-- The words of a statement: what it selects, the tables, and what comes after them. -/
lemma exists_words {s : Statement} (hs : s ∈ (f.query w).statements) : ∃ selected later,
    identifiers s.sql.toList = selected ++
      "FROM".toList :: (identifiers f.baseQuery.relation.toList ++ later) ∧
    "FROM".toList ∉ selected ∧ (∀ v ∈ later.head?, v ∈ laterClauses) ∧
    qualifiers selected ⊆ f.tablesOf.map Prod.snd ∧ qualifiers later ⊆ f.tablesOf.map Prod.snd ∧
    (f.searchesJobs = true → "j".toList ∈ qualifiers later) := by
  obtain ⟨projection, tail, hselects, hsql⟩ := Query.exists_selects hs
  have hwords := Query.identifiers_of_selects (f.fieldTerms_query w) hselects hsql
  have hmem : projection ∈ [f.baseQuery.columns, "COUNT(*)", f.baseQuery.idColumn] := by
    rw [query_eq] at hselects
    rcases hselects with ⟨rfl, -⟩ | ⟨hmem, -⟩
    · exact List.mem_cons_self
    · exact List.mem_cons_of_mem _ hmem
  obtain ⟨hprojection, hselected⟩ := words_projection hmem
  have htail : qualifiers (identifiers tail.toList) ⊆ f.tablesOf.map Prod.snd ∧
      ∀ v ∈ (identifiers tail.toList).head?, v ∈ laterClauses := by
    rcases hselects with ⟨-, rfl⟩ | ⟨-, rfl⟩
    · obtain ⟨rest, -, htail⟩ := f.identifiers_tailText w
      refine ⟨f.qualifiers_tailText w, ?_⟩
      rw [htail]
      rintro v ⟨⟩
      decide
    · exact ⟨List.nil_subset _, by decide⟩
  rw [relation_query] at hwords
  have hselect : "FROM".toList ∉ "SELECT".toList :: identifiers projection.toList :=
    List.not_mem_cons_of_ne_of_not_mem (by decide) fun hfrom => (hprojection _ hfrom).1 rfl
  refine ⟨_, _, hwords, hselect, ?_, ?_, ?_, ?_⟩
  · by_cases hne : (f.query w).conditionTexts = []
    · rw [Query.whereText_of_conditionTexts_eq_nil hne]
      exact htail.2
    · obtain ⟨ws, hws⟩ := Query.identifiers_whereText hne
      rw [hws]
      rintro v ⟨⟩
      decide
  · rw [qualifiers_cons (by decide)]
    exact hselected
  · rw [qualifiers_append]
    exact List.append_subset_of_subset_of_subset (f.qualifiers_whereText w) htail.1
  · intro hjobs
    rw [qualifiers_append]
    exact List.mem_append_left _ (mentions_whereText hjobs)

/-- Every statement of a search is over the relation that its job facet asks for. -/
lemma isOver_statements {s : Statement} (hs : s ∈ (f.query w).statements) :
    s.IsOver (f.searchesJobs = true) := by
  obtain ⟨selected, later, hwords, hselect, hhead, hselected, hlater, hmentions⟩ := exists_words hs
  obtain ⟨hrelation, htables, hjoined⟩ := f.words_relation
  obtain ⟨hfrom, hbeside⟩ := clauses_append hselect (fun v hv => (hrelation v hv).1) hhead
  have hover : tables (identifiers s.sql.toList) = f.tablesOf := by
    rw [tables, hwords, hfrom]
    exact htables
  have hall : qualifiers (identifiers s.sql.toList) =
      qualifiers selected ++ (qualifiers (identifiers f.baseQuery.relation.toList) ++
        qualifiers later) := by
    rw [hwords, qualifiers_append, qualifiers_cons (by decide), qualifiers_append]
  have hbesides : qualifiers (besideFrom (identifiers s.sql.toList)) =
      qualifiers selected ++ qualifiers later := by
    rw [hwords, hbeside, qualifiers_append]
  have hdeclared : qualifiers (identifiers s.sql.toList) ⊆ f.tablesOf.map Prod.snd := by
    rw [hall]
    exact List.append_subset_of_subset_of_subset hselected
      (List.append_subset_of_subset_of_subset hjoined hlater)
  -- That jobs are named needs their table, so only the other direction is about the conditions.
  have hjobs : ("flow_job".toList ∈ f.tablesOf.map Prod.fst ↔ f.searchesJobs = true) ∧
      ("j".toList ∈ f.tablesOf.map Prod.snd ↔ f.searchesJobs = true) := by
    unfold tablesOf
    cases f.searchesJobs with
    | false => decide
    | true => decide
  refine ⟨?_, ⟨fun h => hjobs.2.mp (hdeclared h), fun h => ?_⟩, ⟨fun h => ?_, fun h => ?_⟩, ?_⟩
  · rw [hover]
    exact hjobs.1
  · rw [hall]
    exact List.mem_append_right _ (List.mem_append_right _ (hmentions h))
  · rw [hbesides] at h
    exact hjobs.2.mp (List.append_subset_of_subset_of_subset hselected hlater h)
  · rw [hbesides]
    exact List.mem_append_right _ (hmentions h)
  · rw [hover]
    exact hdeclared

/-- The keys of the order as they stand in the statement of the page. -/
lemma orderKeys_pageStatement (f : FlowFilter) (w : PageWindow) :
    orderKeys (identifiers (f.query w).pageStatement.sql.toList) =
      f.orderNames.map String.toList := by
  have hwords := Query.identifiers_of_selects (f.fieldTerms_query w) (.inl ⟨rfl, rfl⟩)
    (f.query w).sql_pageStatement
  obtain ⟨rest, -, htail⟩ := f.identifiers_tailText w
  have hcolumns : "BY".toList ∉ identifiers (f.query w).columns.toList := by
    rw [columns_query]
    exact fun hby => ((words_projection List.mem_cons_self).1 _ hby).2 rfl
  have hrelation : "BY".toList ∉ identifiers (f.query w).relation.toList := by
    rw [relation_query]
    exact fun hby => (f.words_relation.1 _ hby).2 rfl
  have hwhere : "BY".toList ∉ identifiers (f.query w).whereText.toList := by
    intro hmem
    rcases f.madeOf_whereText w _ hmem with hword | hnumber | hname
    · exact absurd hword (by decide)
    · exact absurd hnumber (by decide)
    · revert hname
      unfold conditionNames
      cases f.searchesJobs with
      | false => decide
      | true => decide
  have hnames : "LIMIT".toList ∉ f.orderNames.map String.toList := by
    unfold orderNames
    cases f.searchesJobs with
    | false => decide
    | true => decide
  let before := "SELECT".toList :: identifiers (f.query w).columns.toList ++
    "FROM".toList :: (identifiers (f.query w).relation.toList ++
      (identifiers (f.query w).whereText.toList ++ ["ORDER".toList]))
  have hbefore : "BY".toList ∉ before := by
    simp only [before, List.mem_append, List.mem_cons, hcolumns, hrelation, hwhere,
      List.not_mem_nil, or_false, false_or]
    decide
  have hsplit : identifiers (f.query w).pageStatement.sql.toList =
      before ++ "BY".toList :: (f.orderNames.map String.toList ++ "LIMIT".toList :: rest) := by
    rw [hwords, htail]
    simp [before]
  rw [hsplit, orderKeys_append hbefore hnames]

end FlowFilter

namespace SearchEngine

/-- A search for flows or jobs has been recorded on a path, with how it ended. -/
def RecordedOn (path : String) (seconds : Float) (before after : Registry) : Prop :=
  ∃ status ∈ ["success", "error"], ∃ count,
    after = before.recordOutcome ⟨⟨flowDomain, path⟩, status⟩ seconds count

lemma searches_recordOutcome (outcome : OutcomeLabels) (seconds : Float) (count : Int)
    (r : Registry) :
    (r.recordOutcome outcome seconds count).searches =
      r.searches.adjust r.hash outcome 0 (· + 1) := by
  unfold Registry.recordOutcome
  split <;> rfl

/-- One record is not on both paths. -/
lemma RecordedOn.path_eq {path path' : String} {seconds : Float} {before after : Registry}
    (hpath : path ∈ ["flow", "job"]) (hpath' : path' ∈ ["flow", "job"])
    (h : RecordedOn path seconds before after) (h' : RecordedOn path' seconds before after) :
    path = path' := by
  obtain ⟨status, hstatus, count, rfl⟩ := h
  obtain ⟨status', hstatus', count', h'⟩ := h'
  have hsearches := congrArg Registry.searches h'
  rw [searches_recordOutcome, searches_recordOutcome] at hsearches
  have hhash := Samples.hash_eq_of_adjust_eq id rfl rfl (fun _ => rfl) (fun _ => rfl) hsearches
  have hmem : ∀ path ∈ ["flow", "job"], ∀ status ∈ ["success", "error"],
      (⟨⟨flowDomain, path⟩, status⟩ : OutcomeLabels) ∈ searchOutcomes := by decide
  have hsame := before.hash.tellsApart_searchOutcomes _ (hmem path hpath status hstatus) _
    (hmem path' hpath' status' hstatus') hhash
  exact congrArg (·.search.path) hsame

/-- The job facet decides at once over what a search reads, names and orders by, on which path it is
recorded and what the entities show. Its rows are all shown, in order. -/
theorem job_facet_decides (e : SearchEngine) (db : Database) (members : List (String × Json))
    (w : PageWindow) (seconds : Float) (st : ServiceState) :
    let options := Json.object members
    let q := (FlowFilter.ofMembers options).query w
    let jobs := FlowFilter.jobValues options ≠ []
    let flows := (e.searchFlows db options w seconds).run st
    (∀ s ∈ q.statements, s.IsOver jobs) ∧
    ((orderKeys (identifiers q.pageStatement.sql.toList)).getLast? = some "j.job_id".toList ↔
      jobs) ∧
    (RecordedOn "job" seconds st.metrics flows.2.metrics ↔ jobs) ∧
    (RecordedOn "flow" seconds st.metrics flows.2.metrics ↔ ¬ jobs) ∧
    ∀ p, flows.1 = .ok p → ∃ rows, q.Replied db (e.begun st.sent) rows p.count ∧
      List.Forall₂ (FlowJob.Shows (decide jobs)) rows p.data := by
  intro options q jobs flows
  let f := FlowFilter.ofMembers options
  have hjobs : jobs ↔ f.searchesJobs = true := by
    rw [FlowFilter.searchesJobs_iff]
    rfl
  have horder : (orderKeys (identifiers q.pageStatement.sql.toList)).getLast? =
      some "j.job_id".toList ↔ f.searchesJobs = true := by
    rw [f.orderKeys_pageStatement w]
    unfold FlowFilter.orderNames
    cases f.searchesJobs with
    | false => decide
    | true => decide
  -- The path that is recorded is the only one, so it decides both statements about paths.
  let path := if f.searchesJobs then "job" else "flow"
  have hpath : path ∈ ["flow", "job"] := by
    simp only [path]
    split <;> decide
  have hrecorded : RecordedOn path seconds st.metrics flows.2.metrics := by
    obtain ⟨count, hmetrics⟩ := exists_recordOutcome_observed ⟨flowDomain, path⟩ seconds
      (e.runFlows db f w) st
    refine ⟨_, ?_, count, hmetrics⟩
    split <;> decide
  have hon : ∀ path' ∈ ["flow", "job"],
      (RecordedOn path' seconds st.metrics flows.2.metrics ↔ path = path') := by
    intro path' hpath'
    constructor
    · exact hrecorded.path_eq hpath hpath'
    · rintro rfl
      exact hrecorded
  refine ⟨?_, ?_, ?_, ?_, ?_⟩
  · intro s hs
    rw [hjobs]
    exact FlowFilter.isOver_statements hs
  · rw [hjobs]
    exact horder
  · rw [hon "job" (by decide), hjobs]
    simp [path]
  · rw [hon "flow" (by decide), hjobs]
    simp [path]
  · intro p hp
    obtain ⟨count, data, rows, -, hreplied, hshows⟩ := replied_of_searchFlows rfl hp
    refine ⟨rows, hreplied, ?_⟩
    have hdecide : decide jobs = f.searchesJobs := by
      rw [Bool.eq_iff_iff, decide_eq_true_eq, hjobs]
    rw [hdecide]
    exact hshows

/-- Jobs that are only excluded make the search one for jobs. A job without name or path is shown by
the name of its flow, but never by the path of it. -/
theorem job_facet_decides_excluding :
    let e : SearchEngine := ⟨⟨[], 9⟩, ⟨20, 100⟩, 0⟩
    let members : List (String × Json) :=
      [("job", .object [("in", .string " , "), ("not", .string "tmp")])]
    let row : Row := [.text "AZ", .bigint 7, .text "daily", .text "etl/daily", .null, .bigint 3,
      .text " ", .null, .null]
    let db := Script.database { replies := [.rows [row], .rows [[.bigint 1]]] }
    let flows := (e.searchFlows db (.object members) (.clamp 1 10) 0.5).run {}
    FlowFilter.jobValues (.object members) = ["tmp"] ∧
      RecordedOn "job" 0.5 {} flows.2.metrics ∧
      ∃ p f, flows.1 = .ok p ∧ p.data = [f] ∧ f.displayName = f.flowName ∧ f.path = "AZ/" := by
  intro e members row db flows
  let f : FlowJob := ⟨"AZ", 7, "daily", some "etl/daily", none, some " ", none, none, "daily",
    "#/flows/AZ//7/page/1", "AZ/"⟩
  let p : ResultPage FlowJob := ⟨1, 1, 10, 1, some true, [f]⟩
  have hp : flows.1 = .ok p := rfl
  have hvalues : FlowFilter.jobValues (.object members) = ["tmp"] := by decide
  have hjobs : FlowFilter.jobValues (.object members) ≠ [] := by
    rw [hvalues]
    decide
  obtain ⟨-, -, hrecorded, -, hpages⟩ :=
    job_facet_decides e db members (.clamp 1 10) 0.5 {}
  obtain ⟨rows, hreplied, hshows⟩ := hpages p hp
  have hrows : rows = [row] := Reply.rows.inj (hreplied.page.symm.trans rfl)
  rw [hrows, decide_eq_true hjobs] at hshows
  obtain ⟨hshown, -⟩ := List.forall₂_cons.mp hshows
  exact ⟨hvalues, hrecorded.mpr hjobs, p, f, hp, rfl, hshown.displayName_of_blank (by decide),
    hshown.path_eq⟩

end SearchEngine

end FacetSearch
