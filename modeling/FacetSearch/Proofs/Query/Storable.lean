import FacetSearch.Proofs.Query.Placeholder
import FacetSearch.Proofs.Query.Plan
import FacetSearch.Proofs.Sql.Values
import FacetSearch.Proofs.Text.Storable

/-!
# Values that can be bound

The database takes a statement if none of its texts holds the character U+0000. The statements of a
filter can be bound just when its values can be stored. The words of the free text always can.
-/

namespace FacetSearch

namespace Bind

/-- All texts of the value can be stored. -/
def Storable : Bind → Prop
  | text s => Text.Storable s
  | textArray ss => ∀ s ∈ ss, Text.Storable s
  | bigint _ | bigintArray _ => True

instance : DecidablePred Storable
  | text s => inferInstanceAs (Decidable (Text.Storable s))
  | textArray ss => inferInstanceAs (Decidable (∀ s ∈ ss, Text.Storable s))
  | bigint _ | bigintArray _ => inferInstanceAs (Decidable True)

def AllStorable (bs : List Bind) : Prop := ∀ b ∈ bs, b.Storable

instance (bs : List Bind) : Decidable (AllStorable bs) :=
  inferInstanceAs (Decidable (∀ b ∈ bs, b.Storable))

@[simp] lemma allStorable_nil : AllStorable [] := List.forall_mem_nil _

@[simp] lemma allStorable_cons {b : Bind} {bs : List Bind} :
    AllStorable (b :: bs) ↔ b.Storable ∧ AllStorable bs :=
  List.forall_mem_cons

@[simp] lemma allStorable_append {bs cs : List Bind} :
    AllStorable (bs ++ cs) ↔ AllStorable bs ∧ AllStorable cs :=
  List.forall_mem_append

end Bind

/-- All values of the statement can be stored. -/
def Statement.Storable (st : Statement) : Prop := Bind.AllStorable st.binds

open FacetSearch.Bind

/-! ## Conditions -/

lemma allStorable_patterns {pattern : String → String}
    (h : ∀ s, Text.Storable (pattern s) ↔ Text.Storable s) (terms : List String) :
    AllStorable ((terms.map pattern).map .text) ↔ ∀ s ∈ terms, Text.Storable s := by
  simp only [AllStorable, List.forall_mem_map, Bind.Storable, h]

namespace ValueFacet

/-- All values of a facet, wanted or not. -/
def values (f : ValueFacet) : List String := f.wanted ++ f.unwanted

lemma allStorable_side? (column : String) (m : Match) (values : List String) (negated : Bool) :
    AllStorable (Predicate.boundInAll (side? column m values negated).toList) ↔
      ∀ v ∈ values, Text.Storable v := by
  by_cases hnone : values = []
  · rw [hnone]
    simp [side?, Predicate.boundInAll]
  · have hside : side? column m values negated = some (m.predicate column values negated) := by
      rw [side?, if_neg (by simpa using hnone)]
    rw [hside, Option.toList_some, Predicate.boundInAll, Predicate.boundInAll, List.append_nil]
    cases m with
    | substring => exact allStorable_patterns (fun _ => Text.storable_likeContains) values
    | exact => simp [Match.predicate, Predicate.bound, hnone, Bind.Storable]

lemma allStorable_predicate? (column : String) (m : Match) (f : ValueFacet) :
    AllStorable (Predicate.boundInAll (f.predicate? column m).toList) ↔
      ∀ v ∈ f.values, Text.Storable v := by
  have hsides : Predicate.boundInAll (f.predicate? column m).toList =
      Predicate.boundInAll (side? column m f.wanted false).toList ++
        Predicate.boundInAll (side? column m f.unwanted true).toList := by
    rw [predicate?]
    cases side? column m f.wanted false <;> cases side? column m f.unwanted true <;>
      simp [Predicate.boundInAll, Predicate.bound]
  rw [hsides, allStorable_append, allStorable_side?, allStorable_side?, values,
    List.forall_mem_append]

end ValueFacet

namespace Clause

lemma allStorable_fields? (terms : List String) (negated : Bool) :
    AllStorable (Predicate.boundInAll (fields? terms negated).toList) ↔
      ∀ s ∈ terms, Text.Storable s := by
  have hpatterns := allStorable_patterns (fun _ => Text.storable_likeContains) terms
  cases terms with
  | nil => simp [fields?, Predicate.boundInAll]
  | cons term terms =>
    simpa [fields?, Predicate.boundInAll, Predicate.bound, Predicate.boundInSelects,
      Predicate.boundInSelect] using hpatterns

lemma allStorable_sources? (sources : List String) :
    AllStorable (Predicate.boundInAll (sources? sources).toList) ↔
      ∀ s ∈ sources, Text.Storable s := by
  cases sources with
  | nil => simp [sources?, Predicate.boundInAll]
  | cons source sources =>
    simp [sources?, Predicate.boundInAll, Predicate.bound, Bind.Storable]

lemma allStorable_comments (text : String) : AllStorable (comments text).bound := by
  have hwords := Text.storable_searchTerms text
  have hmatch (column : String) :
      AllStorable (Predicate.prefixMatch column (Text.searchTerms text)).bound := by
    rw [Predicate.bound]
    split
    · exact allStorable_nil
    · rw [allStorable_cons]
      exact ⟨hwords, allStorable_nil⟩
  simp only [comments, Predicate.bound, Predicate.boundInSelects, Predicate.boundInSelect,
    List.append_nil, allStorable_append]
  exact ⟨hmatch "c.text", hmatch "fc.comment"⟩

end Clause

/-! ## Orders -/

namespace Ranking

lemma allStorable_nameKey (terms : List String) :
    AllStorable (nameKey terms).bound ↔ ∀ s ∈ terms, Text.Storable s := by
  simp only [nameKey, OrderKey.bound, nameTier, List.flatMap_cons, List.flatMap_nil,
    Predicate.bound, allStorable_append, allStorable_nil, and_true,
    allStorable_patterns (fun _ => Text.storable_likeLiteral),
    allStorable_patterns (fun _ => Text.storable_likeStartsWith),
    allStorable_patterns (fun _ => Text.storable_likeEndsWith),
    allStorable_patterns (fun _ => Text.storable_likeContains), and_self]

lemma allStorable_namespaceKey (r : Ranking) :
    AllStorable r.namespaceKey.bound ↔ ∀ n ∈ r.namespaces, Text.Storable n.stem := by
  simp only [namespaceKey, OrderKey.bound, AllStorable, List.flatMap_map, List.forall_mem_flatMap,
    namespaceTier, Predicate.bound, List.map_cons, List.map_nil, List.forall_mem_singleton,
    Bind.Storable, Text.storable_likeStartsWith]

lemma bound_columns (names : List String) : (Order.columns names).flatMap OrderKey.bound = [] := by
  rw [Order.columns, List.flatMap_map]
  exact List.flatMap_eq_nil_iff.mpr fun _ _ => rfl

lemma allStorable_datasetOrder (r : Ranking) (terms : List String) :
    AllStorable ((r.datasetOrder terms).flatMap OrderKey.bound) ↔
      (∀ s ∈ terms, Text.Storable s) ∧ ∀ n ∈ r.namespaces, Text.Storable n.stem := by
  have hterms : AllStorable
      ((if terms.isEmpty then [] else [nameKey terms]).flatMap OrderKey.bound) ↔
      ∀ s ∈ terms, Text.Storable s := by
    cases terms with
    | nil => simp
    | cons term terms => simpa using allStorable_nameKey (term :: terms)
  have hnamespaces : AllStorable
      ((if r.namespaces.isEmpty then [] else [r.namespaceKey]).flatMap OrderKey.bound) ↔
      ∀ n ∈ r.namespaces, Text.Storable n.stem := by
    by_cases hnone : r.namespaces = []
    · simp [hnone]
    · rw [if_neg (by simpa using hnone), List.flatMap_singleton, allStorable_namespaceKey]
  rw [datasetOrder, List.flatMap_append, List.flatMap_append, bound_columns, List.append_nil,
    allStorable_append, hterms, hnamespaces]

end Ranking

/-! ## Statements -/

namespace Query

lemma storable_countStatement (q : Query) :
    q.countStatement.Storable ↔
      (∀ s ∈ q.fieldTerms, Text.Storable s) ∧ AllStorable (Predicate.boundInAll q.filters) := by
  have hterms : AllStorable q.withClause.binds ↔ ∀ s ∈ q.fieldTerms, Text.Storable s := by
    by_cases hnone : q.fieldTerms = []
    · simp [withClause, hnone]
    · simp [withClause, hnone, Bind.Storable]
  rw [Statement.Storable, countStatement, Fragment.statement, binds_select, allStorable_append,
    hterms, whereClause, Predicate.binds_whereClause]

lemma storable_idsStatement (q : Query) : q.idsStatement.Storable ↔ q.countStatement.Storable := by
  simp only [Statement.Storable, idsStatement, countStatement, Fragment.statement, binds_select]

lemma storable_pageStatement (q : Query) :
    q.pageStatement.Storable ↔
      q.countStatement.Storable ∧ AllStorable (q.order.flatMap OrderKey.bound) := by
  have horder : q.orderClause.binds = q.order.flatMap OrderKey.bound := by
    rw [← Order.binds_fragment?, orderClause]
    cases Order.fragment? q.order <;> rfl
  have hlimit : AllStorable q.limitClause.binds := by
    rw [limitClause]
    split
    · exact allStorable_nil
    · exact allStorable_cons.mpr ⟨trivial, allStorable_cons.mpr ⟨trivial, allStorable_nil⟩⟩
  rw [Statement.Storable, binds_pageStatement, allStorable_append, allStorable_append, horder]
  exact and_congr_right fun _ => and_iff_left hlimit

end Query

namespace DatasetFilter

/-- All values of a filter but its comments. -/
def values (f : DatasetFilter) : List String :=
  f.scope.values ++ f.table.values ++
    (f.fields.anyOf ++ f.fields.allOf ++ f.fields.noneOf) ++ f.sources

lemma storable_structuredQuery (f : DatasetFilter) :
    f.structuredQuery.countStatement.Storable ↔ ∀ v ∈ f.values, Text.Storable v := by
  have hall : Predicate.boundInAll
      (if f.fields.allOf.isEmpty then [] else [Query.allFieldsMember]) = [] := by
    split <;> rfl
  rw [Query.storable_countStatement, structuredQuery_eq]
  simp only [conditions, Predicate.boundInAll_append, hall, allStorable_append, allStorable_nil,
    ValueFacet.allStorable_predicate?, Clause.allStorable_fields?, Clause.allStorable_sources?,
    values, List.forall_mem_append]
  tauto

lemma mem_values_of_mem_wanted {f : DatasetFilter} {v : String} (h : v ∈ f.table.wanted) :
    v ∈ f.values := by
  simp [values, ValueFacet.values, h]

section Plan

variable {f : DatasetFilter} {r : Ranking} (w : PageWindow) (text : String)

lemma storable_structuredPage (hstems : ∀ n ∈ r.namespaces, Text.Storable n.stem) :
    ((f.structuredQuery.orderBy (r.datasetOrder f.table.wanted)).page w).pageStatement.Storable ↔
      ∀ v ∈ f.values, Text.Storable v := by
  have hcount := f.storable_structuredQuery
  rw [Query.storable_pageStatement]
  constructor
  · intro h
    exact hcount.mp h.1
  · intro hvalues
    refine ⟨hcount.mpr hvalues, (r.allStorable_datasetOrder _).mpr ⟨?_, hstems⟩⟩
    intro s hs
    exact hvalues s (mem_values_of_mem_wanted hs)

lemma storable_freeTextQuery :
    (freeTextQuery text w).pageStatement.Storable ∧
      (freeTextQuery text w).countStatement.Storable := by
  have hcount : (freeTextQuery text w).countStatement.Storable := by
    rw [Query.storable_countStatement]
    refine ⟨List.forall_mem_nil _, ?_⟩
    change AllStorable (Predicate.boundInAll [Clause.comments text])
    rw [Predicate.boundInAll, Predicate.boundInAll, List.append_nil]
    exact Clause.allStorable_comments text
  exact ⟨(Query.storable_pageStatement _).mpr ⟨hcount, allStorable_nil⟩, hcount⟩

lemma storable_followUp (hstems : ∀ n ∈ r.namespaces, Text.Storable n.stem)
    (hvalues : ∀ v ∈ f.values, Text.Storable v) (ids : List Int) :
    let q := (⟨text, r.datasetOrder f.table.wanted, w⟩ : FollowUp).query ids
    q.pageStatement.Storable ∧ q.countStatement.Storable := by
  intro q
  have hcount : q.countStatement.Storable := by
    rw [Query.storable_countStatement]
    refine ⟨List.forall_mem_nil _, ?_⟩
    change AllStorable (Predicate.boundInAll [.idIn "d.id" ids, Clause.comments text])
    simp only [Predicate.boundInAll, Predicate.bound, List.append_nil, allStorable_append,
      allStorable_cons]
    exact ⟨⟨trivial, allStorable_nil⟩, Clause.allStorable_comments text⟩
  refine ⟨(Query.storable_pageStatement q).mpr ⟨hcount, ?_⟩, hcount⟩
  refine (r.allStorable_datasetOrder f.table.wanted).mpr ⟨?_, hstems⟩
  intro s hs
  exact hvalues s (mem_values_of_mem_wanted hs)

end Plan

/-- Without facets there are no values. -/
lemma values_eq_nil {f : DatasetFilter} (h : f.isStructured = false) : f.values = [] := by
  simp only [isStructured, ValueFacet.isEmpty, FieldFacet.isEmpty, Bool.or_eq_false_iff,
    Bool.not_eq_false', Bool.and_eq_true, List.isEmpty_iff] at h
  obtain ⟨⟨⟨⟨hscope, hnotScope⟩, htable, hnotTable⟩, ⟨hany, hall⟩, hnone⟩, hsources⟩ := h
  simp [values, ValueFacet.values, hscope, hnotScope, htable, hnotTable, hany, hall, hnone,
    hsources]

end DatasetFilter

namespace FlowFilter

/-- All values of a filter. -/
def values (f : FlowFilter) : List String := f.appCode.values ++ f.flow.values ++ f.job.values

lemma storable_query (f : FlowFilter) (w : PageWindow) :
    ((f.query w).countStatement.Storable ↔ ∀ v ∈ f.values, Text.Storable v) ∧
      ((f.query w).pageStatement.Storable ↔ ∀ v ∈ f.values, Text.Storable v) := by
  have hterms : f.baseQuery.fieldTerms = [] := by
    unfold baseQuery
    split <;> rfl
  have hcount : (f.query w).countStatement.Storable ↔ ∀ v ∈ f.values, Text.Storable v := by
    rw [Query.storable_countStatement, query_eq]
    simp only [hterms, conditions, Predicate.boundInAll_append, allStorable_append,
      ValueFacet.allStorable_predicate?, values, List.forall_mem_append]
    simp
  have horder : AllStorable ((f.query w).order.flatMap OrderKey.bound) := by
    have hcolumns : (f.query w).order = f.order := by rw [query_eq]
    rw [hcolumns, order, Ranking.bound_columns]
    exact allStorable_nil
  refine ⟨hcount, ?_⟩
  rw [Query.storable_pageStatement, hcount]
  exact and_iff_left horder

end FlowFilter

end FacetSearch
