import FacetSearch.Proofs.Query.Plan
import FacetSearch.Proofs.Query.Result

/-!
# The meaning of facets

A dataset fulfils the conditions of a structured query just when it has what each facet wants and
nothing of what a facet does not want. The same is true of flows and jobs.
-/

namespace FacetSearch

/-- A clause with values only holds where its predicate does, once there are values. -/
lemma Predicate.forall_mem_unless_isEmpty {α : Type} {values : List α} {p : Predicate}
    {P : Predicate → Prop} :
    (∀ q ∈ (if values.isEmpty then none else some p), P q) ↔ (values ≠ [] → P p) := by
  cases values with
  | nil => simp
  | cons value values => simp

namespace DatasetFilter

/-- What a filter without its comments asks of a dataset with this name, scope, source and
fields. -/
structure Admits (rules : TextRules) (f : DatasetFilter) (name scope source : String)
    (fields : List String) : Prop where
  scope : (f.scope.wanted = [] ∨ scope ∈ f.scope.wanted) ∧ scope ∉ f.scope.unwanted
  table : (f.table.wanted = [] ∨ ∃ term ∈ f.table.wanted, rules.Contains name term) ∧
    ∀ term ∈ f.table.unwanted, ¬ rules.Contains name term
  anyOf : f.fields.anyOf = [] ∨
    ∃ field ∈ fields, ∃ term ∈ f.fields.anyOf, rules.Contains field term
  allOf : ∀ term ∈ f.fields.allOf, ∃ field ∈ fields, rules.Contains field term
  noneOf : ∀ field ∈ fields, ∀ term ∈ f.fields.noneOf, ¬ rules.Contains field term
  sources : f.sources = [] ∨ source ∈ f.sources

end DatasetFilter

namespace FlowFilter

/-- The row of a flow or job, as the filter searches for one or the other. -/
def row (f : FlowFilter) (j : JobRecord) (flow : FlowRecord) (a : ApplicationRecord) : Tuple :=
  if f.searchesJobs then j.tuple ++ (flow.tuple ++ a.tuple) else flow.tuple ++ a.tuple

/-- What a filter asks of a flow or job with these names. -/
structure Admits (rules : TextRules) (f : FlowFilter) (appCode flow job : String) : Prop where
  appCode : (f.appCode.wanted = [] ∨ appCode ∈ f.appCode.wanted) ∧ appCode ∉ f.appCode.unwanted
  flow : (f.flow.wanted = [] ∨ ∃ term ∈ f.flow.wanted, rules.Contains flow term) ∧
    ∀ term ∈ f.flow.unwanted, ¬ rules.Contains flow term
  job : (f.job.wanted = [] ∨ ∃ term ∈ f.job.wanted, rules.Contains job term) ∧
    ∀ term ∈ f.job.unwanted, ¬ rules.Contains job term

end FlowFilter

namespace ValueFacet

/-- A text fits a value in the way it is compared. -/
def Match.Fits (rules : TextRules) : Match → String → String → Prop
  | substring, text, value => rules.Contains text value
  | exact, text, value => text = value

section Predicate

variable {rules : TextRules} (heads : Heads) {t : Tuple} {column v : String} {m : Match}

lemma holds_wanted (hv : t.cell column = .text v) (values : List String) :
    (∀ p ∈ side? column m values false, p.holds rules heads t = true) ↔
      values = [] ∨ ∃ value ∈ values, m.Fits rules v value := by
  rw [side?, Predicate.forall_mem_unless_isEmpty, or_iff_not_imp_left]
  refine imp_congr_right fun hne => ?_
  cases m with
  | substring =>
    have hpatterns : values.map Text.likeContains ≠ [] := by simpa using hne
    rw [Match.predicate, Predicate.holds_like hv hpatterns]
    simp only [List.mem_map, exists_exists_and_eq_and, TextRules.like_likeContains, Match.Fits]
  | exact =>
    rw [Match.predicate, Predicate.holds_anyOf hv hne]
    simp only [Match.Fits, exists_eq_right']

lemma holds_unwanted (hv : t.cell column = .text v) (values : List String) :
    (∀ p ∈ side? column m values true, p.holds rules heads t = true) ↔
      ∀ value ∈ values, ¬ m.Fits rules v value := by
  have hpredicate : (m.predicate column values true).holds rules heads t = true ↔
      ∀ value ∈ values, ¬ m.Fits rules v value := by
    cases m with
    | substring =>
      rw [Match.predicate, Predicate.holds_not_like hv]
      simp only [List.forall_mem_map, TextRules.like_likeContains, Match.Fits]
    | exact =>
      rw [Match.predicate, Predicate.holds_not_anyOf hv]
      simp only [Match.Fits]
      exact List.forall_mem_ne.symm
  rw [side?, Predicate.forall_mem_unless_isEmpty, hpredicate]
  exact ⟨fun h value hvalue => h (List.ne_nil_of_mem hvalue) value hvalue, fun h _ => h⟩

lemma holds_predicate (hv : t.cell column = .text v) (f : ValueFacet) :
    (∀ p ∈ f.predicate? column m, p.holds rules heads t = true) ↔
      (f.wanted = [] ∨ ∃ value ∈ f.wanted, m.Fits rules v value) ∧
        ∀ value ∈ f.unwanted, ¬ m.Fits rules v value := by
  rw [← holds_wanted heads hv, ← holds_unwanted heads hv, predicate?]
  cases side? column m f.wanted false <;> cases side? column m f.unwanted true <;>
    simp [Predicate.holds_and]

end Predicate

end ValueFacet

namespace Clause

section Fields

variable (rules : TextRules) (s : Snapshot) (ids : List Int) {t : Tuple} {id : Int}

/-- The sub-select for fields with one of the terms gives the datasets of these fields. -/
lemma selected_fields (t : Tuple) {terms : List String} (hne : terms ≠ []) :
    ∃ datasets : List Int,
      Predicate.selectedByAny rules (s.heads ids) t
        [.filtered "SELECT f.dataset_id FROM dict_field_detail f"
          (.like "f.field_name" (terms.map Text.likeContains) false)] =
        datasets.map .bigint ∧
      ∀ id, id ∈ datasets ↔
        ∃ field ∈ s.fieldNames id, ∃ term ∈ terms, rules.Contains field term := by
  let condition : Predicate := .like "f.field_name" (terms.map Text.likeContains) false
  let kept (f : FieldRecord) : Bool := condition.holds rules (s.heads ids) (f.tuple ++ t)
  have hpatterns : terms.map Text.likeContains ≠ [] := by simpa using hne
  have hkept (f : FieldRecord) :
      kept f = true ↔ ∃ term ∈ terms, rules.Contains f.name term := by
    have hname : Tuple.cell (f.tuple ++ t) "f.field_name" = .text f.name := rfl
    simp only [kept, condition]
    rw [Predicate.holds_like hname hpatterns]
    simp only [List.mem_map, exists_exists_and_eq_and, TextRules.like_likeContains]
  refine ⟨(s.fields.filter kept).map FieldRecord.datasetId, ?_, fun id => ?_⟩
  · have hhead : s.heads ids "SELECT f.dataset_id FROM dict_field_detail f" =
        s.fields.map fun f => (.bigint f.datasetId, f.tuple) := rfl
    simp only [Predicate.selectedByAny, Predicate.selectedBy, hhead, List.append_nil,
      List.filter_map, List.map_map]
    rfl
  · simp only [Snapshot.fieldNames, List.mem_map, List.mem_filter, decide_eq_true_eq]
    constructor
    · rintro ⟨f, ⟨hf, hterm⟩, rfl⟩
      exact ⟨f.name, ⟨f, ⟨hf, rfl⟩, rfl⟩, (hkept f).mp hterm⟩
    · rintro ⟨-, ⟨f, ⟨hf, hid⟩, rfl⟩, hterm⟩
      exact ⟨f, ⟨hf, (hkept f).mpr hterm⟩, hid⟩

lemma holds_fields (hid : t.cell "d.id" = .bigint id) (terms : List String) :
    (∀ p ∈ fields? terms false, p.holds rules (s.heads ids) t = true) ↔
      terms = [] ∨ ∃ field ∈ s.fieldNames id, ∃ term ∈ terms, rules.Contains field term := by
  rw [fields?, Predicate.forall_mem_unless_isEmpty, or_iff_not_imp_left]
  refine imp_congr_right fun hne => ?_
  obtain ⟨datasets, hselected, hmem⟩ := selected_fields rules s ids t hne
  rw [Predicate.holds_membership hid (by simp) hselected, hmem]

lemma holds_not_fields (hid : t.cell "d.id" = .bigint id) (terms : List String) :
    (∀ p ∈ fields? terms true, p.holds rules (s.heads ids) t = true) ↔
      ∀ field ∈ s.fieldNames id, ∀ term ∈ terms, ¬ rules.Contains field term := by
  rw [fields?, Predicate.forall_mem_unless_isEmpty]
  by_cases hne : terms = []
  · simp [hne]
  · obtain ⟨datasets, hselected, hmem⟩ := selected_fields rules s ids t hne
    rw [Predicate.holds_not_membership hid (by simp) hselected, hmem, imp_iff_right hne]
    simp only [not_exists, not_and]

lemma holds_sources {source : String} (hsource : t.cell "d.source" = .text source)
    (sources : List String) {heads : Heads} :
    (∀ p ∈ sources? sources, p.holds rules heads t = true) ↔
      sources = [] ∨ source ∈ sources := by
  rw [sources?, Predicate.forall_mem_unless_isEmpty, or_iff_not_imp_left]
  exact imp_congr_right fun hne => Predicate.holds_anyOf hsource hne

end Fields

end Clause

namespace DatasetFilter

variable (rules : TextRules) (s : Snapshot) {t : Tuple} {id : Int}

/-- The condition for all fields together with the clause that computes its datasets. -/
lemma holds_allFields (hid : t.cell "d.id" = .bigint id) (f : DatasetFilter) :
    (∀ p ∈ (if f.fields.allOf.isEmpty then [] else [Query.allFieldsMember]),
        p.holds rules (f.structuredQuery.heads rules s) t = true) ↔
      ∀ term ∈ f.fields.allOf, ∃ field ∈ s.fieldNames id, rules.Contains field term := by
  have hterms : f.structuredQuery.fieldTerms = f.fields.allOf := by rw [structuredQuery_eq]
  by_cases hne : f.fields.allOf = []
  · simp [hne]
  · have hempty : f.fields.allOf.isEmpty = false := by simpa using hne
    have hselected : Predicate.selectedByAny rules (f.structuredQuery.heads rules s) t
        [.whole "SELECT dataset_id FROM all_fields"] =
        (f.structuredQuery.allFieldIds rules s).map .bigint := by
      have hhead : f.structuredQuery.heads rules s "SELECT dataset_id FROM all_fields" =
          (f.structuredQuery.allFieldIds rules s).map
            fun id => (.bigint id, [("dataset_id", .bigint id)]) := rfl
      simp only [Predicate.selectedByAny, Predicate.selectedBy, hhead, List.append_nil,
        List.map_map]
      rfl
    simp only [hempty, Bool.false_eq_true, if_false, List.mem_singleton, forall_eq]
    rw [Query.allFieldsMember, Predicate.holds_membership hid (by simp) hselected,
      Query.mem_allFieldIds (by rw [hterms]; exact hne), hterms]

lemma keeps_structuredQuery (f : DatasetFilter) (d : DatasetRecord) {scope source : String}
    (hscope : d.parentName = some scope) (hsource : d.source = some source) :
    f.structuredQuery.keeps rules s d.tuple = true ↔
      f.Admits rules d.name scope source (s.fieldNames d.id) := by
  have hparent : d.tuple.cell "d.parent_name" = .text scope := by
    change Cell.ofText? d.parentName = .text scope
    rw [hscope]
    rfl
  have hname : d.tuple.cell "d.name" = .text d.name := rfl
  have hcell : d.tuple.cell "d.source" = .text source := by
    change Cell.ofText? d.source = .text source
    rw [hsource]
    rfl
  have hid : d.tuple.cell "d.id" = .bigint d.id := rfl
  have hall := holds_allFields rules s hid f
  have hfilters : f.structuredQuery.filters = f.conditions := by rw [structuredQuery_eq]
  rw [Query.keeps_iff, hfilters, conditions]
  simp only [List.forall_mem_append, Option.mem_toList, ← Option.mem_def]
  rw [ValueFacet.holds_predicate _ hparent, ValueFacet.holds_predicate _ hname, hall, Query.heads,
    Clause.holds_fields _ _ _ hid, Clause.holds_not_fields _ _ _ hid, Clause.holds_sources _ hcell]
  simp only [ValueFacet.Match.Fits, exists_eq_right']
  constructor
  · rintro ⟨⟨⟨⟨⟨hscopes, htables⟩, hany⟩, hterms⟩, hnone⟩, hsources⟩
    exact ⟨⟨hscopes.1, List.forall_mem_ne.mp hscopes.2⟩, htables, hany, hterms, hnone, hsources⟩
  · rintro ⟨hscopes, htables, hany, hterms, hnone, hsources⟩
    exact ⟨⟨⟨⟨⟨⟨hscopes.1, List.forall_mem_ne.mpr hscopes.2⟩, htables⟩, hany⟩, hterms⟩, hnone⟩,
      hsources⟩

end DatasetFilter

namespace FlowFilter

variable {rules : TextRules} {s : Snapshot}

lemma keeps_query (f : FlowFilter) (w : PageWindow) (j : JobRecord) (flow : FlowRecord)
    (a : ApplicationRecord) {job : String} (hjob : j.name = some job) :
    (f.query w).keeps rules s (f.row j flow a) = true ↔
      f.Admits rules a.appCode flow.name job := by
  have hcode : (f.row j flow a).cell "a.app_code" = .text a.appCode := by
    unfold row
    split <;> rfl
  have hflow : (f.row j flow a).cell "f.flow_name" = .text flow.name := by
    unfold row
    split <;> rfl
  have hjobs : (∀ p ∈ f.job.predicate? "j.job_name" .substring,
      p.holds rules ((f.query w).heads rules s) (f.row j flow a) = true) ↔
      (f.job.wanted = [] ∨ ∃ term ∈ f.job.wanted, rules.Contains job term) ∧
        ∀ term ∈ f.job.unwanted, ¬ rules.Contains job term := by
    by_cases hsearch : f.searchesJobs = true
    · have hname : (f.row j flow a).cell "j.job_name" = .text job := by
        rw [row, if_pos hsearch]
        change Cell.ofText? j.name = .text job
        rw [hjob]
        rfl
      exact ValueFacet.holds_predicate _ hname f.job
    · -- Without a job facet the row has no job, and nothing is asked of one.
      have hempty : f.job.wanted = [] ∧ f.job.unwanted = [] := by
        simpa [searchesJobs, ValueFacet.isEmpty] using hsearch
      simp [ValueFacet.predicate?, ValueFacet.side?, hempty]
  have hfilters : (f.query w).filters = f.conditions := by rw [query_eq]
  rw [Query.keeps_iff, hfilters, conditions]
  simp only [List.forall_mem_append, Option.mem_toList, ← Option.mem_def]
  rw [ValueFacet.holds_predicate _ hcode, ValueFacet.holds_predicate _ hflow, hjobs]
  simp only [ValueFacet.Match.Fits, exists_eq_right']
  constructor
  · rintro ⟨⟨hcodes, hflows⟩, hjobs⟩
    exact ⟨⟨hcodes.1, List.forall_mem_ne.mp hcodes.2⟩, hflows, hjobs⟩
  · rintro ⟨hcodes, hflows, hjobs⟩
    exact ⟨⟨⟨hcodes.1, List.forall_mem_ne.mpr hcodes.2⟩, hflows⟩, hjobs⟩

end FlowFilter

/-- A dataset whose columns are all there fulfils a structured query just when its scope, its
name, the names of its fields and its source are as the facets ask. A flow or job fulfils its
query just when its application, its flow and its job are. -/
theorem Query.keeps_iff_admits (rules : TextRules) (s : Snapshot) :
    (∀ (f : DatasetFilter) (id : Int) (name scope source urn : String) (schema : Option String),
      f.structuredQuery.keeps rules s
          (DatasetRecord.tuple ⟨id, name, some scope, some source, urn, schema⟩) = true ↔
        f.Admits rules name scope source (s.fieldNames id)) ∧
    ∀ (f : FlowFilter) (w : PageWindow) (a : ApplicationRecord) (flow : FlowRecord)
      (jobId : Int) (job : String) (path type : Option String),
      (f.query w).keeps rules s
          (f.row ⟨flow.appId, flow.flowId, jobId, some job, path, type⟩ flow a) = true ↔
        f.Admits rules a.appCode flow.name job := by
  constructor
  · intro f id name scope source urn schema
    exact f.keeps_structuredQuery rules s ⟨id, name, some scope, some source, urn, schema⟩ rfl rfl
  · intro f w a flow jobId job path type
    exact f.keeps_query w ⟨flow.appId, flow.flowId, jobId, some job, path, type⟩ flow a rfl

end FacetSearch
