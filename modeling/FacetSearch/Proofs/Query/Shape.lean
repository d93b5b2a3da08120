import FacetSearch.Proofs.Query.Plan
import FacetSearch.Proofs.Sql.Shape

/-!
# The text of a search depends on its shape alone

Two filters have one shape if they give the same numbers of terms where each term is a pattern of
its own, and otherwise give values in the same facets. Plans of filters of one shape send the same
SQL, whatever the values, the window, the namespaces and the candidates are.
-/

namespace FacetSearch

namespace ValueFacet

/-- Lists of values that differ in the values only, compared in one way: each value that is looked
for in a name is a pattern of its own, others are compared all at once. -/
def Match.SameShape : Match → List String → List String → Prop
  | substring, values, values' => values.length = values'.length
  | exact, values, values' => values = [] ↔ values' = []

/-- Facets that differ in the values only. -/
structure SameShape (m : Match) (f g : ValueFacet) : Prop where
  wanted : m.SameShape f.wanted g.wanted
  unwanted : m.SameShape f.unwanted g.unwanted

end ValueFacet

namespace DatasetFilter

/-- Filters that differ in the values only. Of the words of the free text it counts whether there
are any. -/
structure SameShape (f g : DatasetFilter) : Prop where
  scope : ValueFacet.SameShape .exact f.scope g.scope
  table : ValueFacet.SameShape .substring f.table g.table
  anyOf : f.fields.anyOf.length = g.fields.anyOf.length
  allOf : f.fields.allOf = [] ↔ g.fields.allOf = []
  noneOf : f.fields.noneOf.length = g.fields.noneOf.length
  sources : f.sources = [] ↔ g.sources = []
  comments : f.comments.map (fun text => (Text.searchTerms text).isEmpty) =
    g.comments.map fun text => (Text.searchTerms text).isEmpty

end DatasetFilter

namespace FlowFilter

/-- Filters that differ in the values only. -/
structure SameShape (f g : FlowFilter) : Prop where
  appCode : ValueFacet.SameShape .exact f.appCode g.appCode
  flow : ValueFacet.SameShape .substring f.flow g.flow
  job : ValueFacet.SameShape .substring f.job g.job

end FlowFilter

/-- Rankings that differ in the stems of their namespaces only. -/
def Ranking.SameTiers (r s : Ranking) : Prop :=
  r.namespaces.map NamespaceTier.tier = s.namespaces.map NamespaceTier.tier ∧
    r.fallback = s.fallback

/-- All three statements of the queries have the same text. -/
structure Query.SameSql (q q' : Query) : Prop where
  page : q.pageStatement.sql = q'.pageStatement.sql
  count : q.countStatement.sql = q'.countStatement.sql
  ids : q.idsStatement.sql = q'.idsStatement.sql

/-- Plans of one kind whose statements have the same text, for any candidates that are found. -/
def DatasetPlan.SameSql : DatasetPlan → DatasetPlan → Prop
  | structured q, structured q' => q.SameSql q'
  | freeText q, freeText q' => q.SameSql q'
  | narrowed q followUp, narrowed q' followUp' => q.SameSql q' ∧
      ∀ ids ids' : List Int, (followUp.query ids).SameSql (followUp'.query ids')
  | _, _ => False

namespace Query

/-- The query without its values. -/
def shape (q : Query) : Query :=
  { q with
    fieldTerms := blanks q.fieldTerms
    filters := q.filters.map Predicate.shape
    order := q.order.map OrderKey.shape
    window := q.window.map fun _ => ⟨0, 0⟩ }

section Shape

variable (q : Query)

lemma blank_withClause_shape : q.shape.withClause.blank = q.withClause.blank := by
  simp only [withClause, shape, isEmpty_blanks]
  split <;> rfl

lemma blank_whereClause_shape : q.shape.whereClause.blank = q.whereClause.blank := by
  have hfilters := Predicate.map_blank_fragments_shape q.filters
  rw [Predicate.shapeOfAll_eq_map] at hfilters
  simp only [whereClause, shape]
  cases hf : Predicate.fragments q.filters <;>
    cases hg : Predicate.fragments (q.filters.map Predicate.shape) <;>
    simp_all [Predicate.whereClause, Fragment.blank_join]

lemma blank_orderClause_shape : q.shape.orderClause.blank = q.orderClause.blank := by
  have horder := Order.map_blank_fragment?_shape q.order
  simp only [orderClause, shape]
  cases hf : Order.fragment? q.order <;>
    cases hg : Order.fragment? (q.order.map OrderKey.shape) <;> simp_all

lemma blank_limitClause_shape : q.shape.limitClause.blank = q.limitClause.blank := by
  simp only [limitClause, shape]
  cases q.window <;> rfl

lemma blank_select_shape (projection : String) :
    (q.shape.select projection).blank = (q.select projection).blank := by
  simp only [select, Fragment.blank_append, Fragment.blank_sql_cons, blank_withClause_shape,
    blank_whereClause_shape]
  rfl

/-- The statements of a query have the text of those of its shape. -/
lemma sameSql_shape : q.shape.SameSql q where
  page := Fragment.sql_statement_eq <| by
    simp only [Fragment.blank_append, blank_select_shape, blank_orderClause_shape,
      blank_limitClause_shape]
    rfl
  count := Fragment.sql_statement_eq (q.blank_select_shape _)
  ids := Fragment.sql_statement_eq (q.blank_select_shape _)

end Shape

variable {q q' : Query}

lemma sameSql_of_shape_eq (h : q.shape = q'.shape) : q.SameSql q' where
  page := by rw [← q.sameSql_shape.page, h, q'.sameSql_shape.page]
  count := by rw [← q.sameSql_shape.count, h, q'.sameSql_shape.count]
  ids := by rw [← q.sameSql_shape.ids, h, q'.sameSql_shape.ids]

end Query

lemma isEmpty_eq_of_length_eq {α : Type} {as bs : List α} (h : as.length = bs.length) :
    as.isEmpty = bs.isEmpty := by
  rw [Bool.eq_iff_iff, List.isEmpty_iff_length_eq_zero, List.isEmpty_iff_length_eq_zero, h]

lemma map_const_eq_of_length_eq {α β : Type} {as bs : List α} (h : as.length = bs.length)
    (b : β) : as.map (fun _ => b) = bs.map fun _ => b := by
  rw [List.map_const', List.map_const', h]

namespace ValueFacet

variable {m : Match} {column : String} {values values' : List String} {negated : Bool}
  {f g : ValueFacet}

lemma Match.SameShape.isEmpty_eq (h : m.SameShape values values') :
    values.isEmpty = values'.isEmpty := by
  cases m with
  | substring => exact isEmpty_eq_of_length_eq h
  | exact => exact isEmpty_eq_of_eq_nil_iff h

lemma Match.SameShape.shape_predicate (h : m.SameShape values values') :
    (m.predicate column values negated).shape = (m.predicate column values' negated).shape := by
  cases m with
  | substring =>
    have hpatterns := map_const_eq_of_length_eq h ""
    simpa [predicate, Predicate.shape, Function.comp_def] using hpatterns
  | exact => rw [predicate, predicate, Predicate.shape, Predicate.shape, blanks_eq_blanks h]

lemma Match.SameShape.shape_side? (h : m.SameShape values values') :
    (side? column m values negated).map Predicate.shape =
      (side? column m values' negated).map Predicate.shape := by
  rw [side?, side?, h.isEmpty_eq]
  split
  · rfl
  · rw [Option.map_some, Option.map_some, h.shape_predicate]

lemma shape_predicate? (column : String) (m : Match) (f : ValueFacet) :
    (f.predicate? column m).map Predicate.shape =
      match (side? column m f.wanted false).map Predicate.shape,
        (side? column m f.unwanted true).map Predicate.shape with
      | none, none => none
      | some p, none => some p
      | none, some q => some q
      | some p, some q => some (.and [p, q]) := by
  rw [predicate?]
  cases side? column m f.wanted false <;> cases side? column m f.unwanted true <;>
    simp [Predicate.shape, Predicate.shapeOfAll]

lemma SameShape.shape_predicate?_eq (h : SameShape m f g) (column : String) :
    (f.predicate? column m).map Predicate.shape = (g.predicate? column m).map Predicate.shape := by
  rw [shape_predicate?, shape_predicate?, h.wanted.shape_side?, h.unwanted.shape_side?]

lemma SameShape.isEmpty_eq (h : SameShape m f g) : f.isEmpty = g.isEmpty := by
  rw [isEmpty, isEmpty, h.wanted.isEmpty_eq, h.unwanted.isEmpty_eq]

end ValueFacet

namespace Clause

lemma shape_fields? {terms terms' : List String} (h : terms.length = terms'.length)
    (negated : Bool) :
    (fields? terms negated).map Predicate.shape = (fields? terms' negated).map Predicate.shape := by
  have hpatterns := map_const_eq_of_length_eq h ""
  rw [fields?, fields?, isEmpty_eq_of_length_eq h]
  split
  · rfl
  · simp [Predicate.shape, Predicate.shapeOfSelects, Predicate.shapeOfSelect, Function.comp_def,
      hpatterns]

lemma shape_sources? {sources sources' : List String} (h : sources = [] ↔ sources' = []) :
    (sources? sources).map Predicate.shape = (sources? sources').map Predicate.shape := by
  rw [sources?, sources?, isEmpty_eq_of_eq_nil_iff h]
  split
  · rfl
  · simp only [Option.map_some, Predicate.shape, blanks_eq_blanks h]

lemma shape_comments {text text' : String}
    (h : (Text.searchTerms text).isEmpty = (Text.searchTerms text').isEmpty) :
    (comments text).shape = (comments text').shape := by
  have hterms : blanks (Text.searchTerms text) = blanks (Text.searchTerms text') := by
    rw [blanks, blanks, h]
  simp only [comments, Predicate.shape, Predicate.shapeOfSelects, Predicate.shapeOfSelect, hterms]

end Clause

namespace Ranking

variable {r s : Ranking}

lemma shape_nameKey {terms terms' : List String} (h : terms.length = terms'.length) :
    (nameKey terms).shape = (nameKey terms').shape := by
  have hpatterns := map_const_eq_of_length_eq h ""
  simp [nameKey, nameTier, OrderKey.shape, Tier.shape, Predicate.shape, Function.comp_def,
    hpatterns]

lemma SameTiers.shape_namespaceKey (h : r.SameTiers s) :
    r.namespaceKey.shape = s.namespaceKey.shape := by
  have hshape (r : Ranking) : r.namespaceKey.shape =
      .tiered ((r.namespaces.map NamespaceTier.tier).map fun tier =>
        ⟨.like "d.urn" [""] false, tier⟩) r.fallback := by
    simp [namespaceKey, namespaceTier, OrderKey.shape, Tier.shape, Predicate.shape,
      Function.comp_def]
  rw [hshape, hshape, h.1, h.2]

lemma SameTiers.shape_datasetOrder (h : r.SameTiers s) {terms terms' : List String}
    (hterms : terms.length = terms'.length) :
    (r.datasetOrder terms).map OrderKey.shape = (s.datasetOrder terms').map OrderKey.shape := by
  have hnamespaces : r.namespaces.isEmpty = s.namespaces.isEmpty := by
    rw [← List.isEmpty_map (f := NamespaceTier.tier), h.1, List.isEmpty_map]
  rw [datasetOrder, datasetOrder, isEmpty_eq_of_length_eq hterms, hnamespaces]
  split <;> split <;> simp [shape_nameKey hterms, h.shape_namespaceKey]

end Ranking

namespace DatasetFilter

variable {f g : DatasetFilter}

lemma SameShape.shape_structuredQuery (h : f.SameShape g) :
    f.structuredQuery.shape = g.structuredQuery.shape := by
  have hconditions : f.conditions.map Predicate.shape = g.conditions.map Predicate.shape := by
    simp only [conditions, List.map_append, ← Option.toList_map, h.scope.shape_predicate?_eq,
      h.table.shape_predicate?_eq, Clause.shape_fields? h.anyOf, Clause.shape_fields? h.noneOf,
      Clause.shape_sources? h.sources, isEmpty_eq_of_eq_nil_iff h.allOf]
  simp only [structuredQuery_eq, Query.shape, hconditions, blanks_eq_blanks h.allOf]

lemma SameShape.isStructured_eq (h : f.SameShape g) : f.isStructured = g.isStructured := by
  simp only [isStructured, FieldFacet.isEmpty, h.scope.isEmpty_eq, h.table.isEmpty_eq,
    isEmpty_eq_of_length_eq h.anyOf, isEmpty_eq_of_eq_nil_iff h.allOf,
    isEmpty_eq_of_length_eq h.noneOf, isEmpty_eq_of_eq_nil_iff h.sources]

end DatasetFilter

lemma FollowUp.shape_query (followUp followUp' : FollowUp)
    (htext : (Text.searchTerms followUp.text).isEmpty = (Text.searchTerms followUp'.text).isEmpty)
    (horder : followUp.order.map OrderKey.shape = followUp'.order.map OrderKey.shape)
    (ids ids' : List Int) : (followUp.query ids).shape = (followUp'.query ids').shape := by
  have hcomments := Clause.shape_comments htext
  simp [query, Query.shape, Query.filter, Query.orderBy, Query.page, Query.countBy, Predicate.shape,
    hcomments, horder]

lemma DatasetFilter.shape_freeTextQuery {text text' : String}
    (h : (Text.searchTerms text).isEmpty = (Text.searchTerms text').isEmpty) (w v : PageWindow) :
    (freeTextQuery text w).shape = (freeTextQuery text' v).shape := by
  simp [freeTextQuery, Query.shape, Query.filter, Query.orderBy, Query.page,
    Clause.shape_comments h]

lemma FlowFilter.SameShape.shape_query {f g : FlowFilter} (h : f.SameShape g) (w v : PageWindow) :
    (f.query w).shape = (g.query v).shape := by
  have hjobs : f.searchesJobs = g.searchesJobs := by
    rw [searchesJobs, searchesJobs, h.job.isEmpty_eq]
  have hconditions : f.conditions.map Predicate.shape = g.conditions.map Predicate.shape := by
    simp only [conditions, List.map_append, ← Option.toList_map, h.appCode.shape_predicate?_eq,
      h.flow.shape_predicate?_eq, h.job.shape_predicate?_eq]
  simp only [query_eq, Query.shape, hconditions, baseQuery, order, hjobs, Option.map_some]

lemma DatasetFilter.SameShape.sameSql_plan {f g : DatasetFilter} (h : f.SameShape g)
    {r s : Ranking} (hranking : r.SameTiers s) (w v : PageWindow) :
    (f.plan w r).SameSql (g.plan v s) := by
  have horder := hranking.shape_datasetOrder h.table.wanted
  have hquery := h.shape_structuredQuery
  have hcomments := h.comments
  unfold plan
  rw [h.isStructured_eq]
  cases hf : f.comments with
  | none =>
    cases hg : g.comments with
    | none =>
      refine Query.sameSql_of_shape_eq ?_
      have hparts := Query.mk.inj hquery
      simp only [Query.shape, Query.orderBy, Query.page, horder, Option.map_some, hparts]
    | some text' =>
      rw [hf, hg] at hcomments
      cases hcomments
  | some text =>
    cases hg : g.comments with
    | none =>
      rw [hf, hg] at hcomments
      cases hcomments
    | some text' =>
      rw [hf, hg] at hcomments
      have htext : (Text.searchTerms text).isEmpty = (Text.searchTerms text').isEmpty :=
        Option.some.inj hcomments
      have hfollowUp := FollowUp.shape_query ⟨text, r.datasetOrder f.table.wanted, w⟩
        ⟨text', s.datasetOrder g.table.wanted, v⟩ htext horder
      have hfreeText := shape_freeTextQuery htext w v
      cases g.isStructured with
      | true =>
        refine ⟨Query.sameSql_of_shape_eq hquery, fun ids ids' => ?_⟩
        exact Query.sameSql_of_shape_eq (hfollowUp ids ids')
      | false => exact Query.sameSql_of_shape_eq hfreeText

/-- No value that a caller gives is written into SQL. Plans of filters of one shape are of one kind
and have the same text in all their statements, also in those that follow up on any candidates,
and so have the queries for flows and jobs. Nor do the window or the stems of the namespaces leave
a trace. -/
theorem plans_sameSql_of_sameShape :
    (∀ f g : DatasetFilter, f.SameShape g → ∀ (w v : PageWindow) (r s : Ranking), r.SameTiers s →
      (f.plan w r).SameSql (g.plan v s)) ∧
    ∀ f g : FlowFilter, f.SameShape g → ∀ w v : PageWindow, (f.query w).SameSql (g.query v) := by
  refine ⟨?_, ?_⟩
  · intro f g h w v r s hranking
    exact h.sameSql_plan hranking w v
  · intro f g h w v
    exact Query.sameSql_of_shape_eq (h.shape_query w v)

/-- A filter that tries to write SQL gives the statements that a harmless one of its shape gives,
and so does a filter for jobs. -/
theorem plans_sameSql_of_hostile :
    let f : DatasetFilter :=
      { table := ⟨["'; DROP TABLE flow --", "%"], []⟩, fields := ⟨[], ["$1", "x", "y"], ["')"]⟩,
        sources := ["hive' OR 1=1"], comments := some "x'); --" }
    let g : DatasetFilter :=
      { table := ⟨["orders", "users"], []⟩, fields := ⟨[], ["id"], ["key"]⟩,
        sources := ["hive", "pinot"], comments := some "daily cost" }
    let r : Ranking := ⟨[⟨"'", 1⟩, ⟨"$2", 3⟩], 9⟩
    let s : Ranking := ⟨[⟨"urn:a", 1⟩, ⟨"urn:b", 3⟩], 9⟩
    let jobs : FlowFilter := { appCode := ⟨["a' --", "b"], []⟩, job := ⟨[], ["%'"]⟩ }
    let jobs' : FlowFilter := { appCode := ⟨["etl"], []⟩, job := ⟨[], ["load"]⟩ }
    f.SameShape g ∧ r.SameTiers s ∧ (f.plan ⟨1, 20⟩ r).SameSql (g.plan ⟨7, 50⟩ s) ∧
      jobs.SameShape jobs' ∧ (jobs.query ⟨1, 20⟩).SameSql (jobs'.query ⟨2, 5⟩) := by
  intro f g r s jobs jobs'
  have hwords : f.comments.map (fun text => (Text.searchTerms text).isEmpty) =
      g.comments.map fun text => (Text.searchTerms text).isEmpty := by decide +kernel
  have hshape : f.SameShape g :=
    ⟨⟨by simp [ValueFacet.Match.SameShape, f, g], by simp [ValueFacet.Match.SameShape, f, g]⟩,
      ⟨rfl, rfl⟩, rfl, by simp [f, g], rfl, by simp [f, g], hwords⟩
  have htiers : r.SameTiers s := ⟨rfl, rfl⟩
  have hjobs : jobs.SameShape jobs' :=
    ⟨⟨by simp [ValueFacet.Match.SameShape, jobs, jobs'],
      by simp [ValueFacet.Match.SameShape, jobs, jobs']⟩, ⟨rfl, rfl⟩, ⟨rfl, rfl⟩⟩
  exact ⟨hshape, htiers, plans_sameSql_of_sameShape.1 f g hshape ⟨1, 20⟩ ⟨7, 50⟩ r s htiers, hjobs,
    plans_sameSql_of_sameShape.2 jobs jobs' hjobs ⟨1, 20⟩ ⟨2, 5⟩⟩

end FacetSearch
