import FacetSearch.Query.Plan
import Mathlib.Tactic.Lemma

/-!
# The queries of plans

What the queries of a plan are made of: their conditions, and the parts of a filter that decide
between the plans.
-/

namespace FacetSearch

namespace Query

lemma filter_eq (q : Query) (p : Option Predicate) :
    q.filter p = { q with filters := q.filters ++ p.toList } := by
  cases p with
  | none => simp [filter]
  | some p => rfl

lemma withAllFields_eq (q : Query) (terms : List String) :
    q.withAllFields terms =
      { q with
        filters := q.filters ++ (if terms.isEmpty then [] else [allFieldsMember])
        fieldTerms := if terms.isEmpty then q.fieldTerms else terms } := by
  unfold withAllFields
  split
  · simp
  · rfl

end Query

/-- The query whose page a search gives, once the candidates of its plan are known. -/
def DatasetPlan.pageQuery (candidates : List Int) : DatasetPlan → Query
  | structured q | freeText q => q
  | narrowed _ followUp => followUp.query candidates

namespace DatasetFilter

/-- The conditions of a filter without its comments. -/
def conditions (f : DatasetFilter) : List Predicate :=
  (f.scope.predicate? "d.parent_name" .exact).toList ++
  (f.table.predicate? "d.name" .substring).toList ++
  (Clause.fields? f.fields.anyOf false).toList ++
  (if f.fields.allOf.isEmpty then [] else [Query.allFieldsMember]) ++
  (Clause.fields? f.fields.noneOf true).toList ++
  (Clause.sources? f.sources).toList

lemma structuredQuery_eq (f : DatasetFilter) :
    f.structuredQuery =
      { Query.datasets with filters := f.conditions, fieldTerms := f.fields.allOf } := by
  have hterms : (if f.fields.allOf.isEmpty then ([] : List String) else f.fields.allOf) =
      f.fields.allOf := by
    cases f.fields.allOf <;> rfl
  simp only [structuredQuery, conditions, Query.filter_eq, Query.withAllFields_eq, Query.datasets,
    List.nil_append, hterms]

section Plan

variable {f : DatasetFilter} {w : PageWindow} {r : Ranking}

/-- The three plans that there are. -/
lemma plan_cases (f : DatasetFilter) (w : PageWindow) (r : Ranking) :
    (f.comments = none ∧
      f.plan w r =
        .structured ((f.structuredQuery.orderBy (r.datasetOrder f.table.wanted)).page w)) ∨
    ∃ text, f.comments = some text ∧
      (f.isStructured = true ∧
        f.plan w r = .narrowed f.structuredQuery ⟨text, r.datasetOrder f.table.wanted, w⟩ ∨
      f.isStructured = false ∧ f.plan w r = .freeText (freeTextQuery text w)) := by
  unfold plan
  cases f.comments with
  | none => exact .inl ⟨rfl, rfl⟩
  | some text =>
    refine .inr ⟨text, rfl, ?_⟩
    cases f.isStructured with
    | true => exact .inl ⟨rfl, rfl⟩
    | false => exact .inr ⟨rfl, rfl⟩

lemma eq_of_plan_structured {q : Query} (h : f.plan w r = .structured q) :
    f.comments = none ∧
      q = (f.structuredQuery.orderBy (r.datasetOrder f.table.wanted)).page w := by
  rcases f.plan_cases w r with ⟨hcomments, hplan⟩ | ⟨text, -, ⟨-, hplan⟩ | ⟨-, hplan⟩⟩ <;>
    rw [h] at hplan
  · exact ⟨hcomments, DatasetPlan.structured.inj hplan⟩
  · cases hplan
  · cases hplan

lemma eq_of_plan_freeText {q : Query} (h : f.plan w r = .freeText q) :
    f.isStructured = false ∧ ∃ text, f.comments = some text ∧ q = freeTextQuery text w := by
  rcases f.plan_cases w r with ⟨-, hplan⟩ | ⟨text, hcomments, ⟨-, hplan⟩ | ⟨hplain, hplan⟩⟩ <;>
    rw [h] at hplan
  · cases hplan
  · cases hplan
  · exact ⟨hplain, text, hcomments, DatasetPlan.freeText.inj hplan⟩

lemma eq_of_plan_narrowed {candidates : Query} {followUp : FollowUp}
    (h : f.plan w r = .narrowed candidates followUp) :
    f.isStructured = true ∧ candidates = f.structuredQuery ∧
      ∃ text, f.comments = some text ∧ followUp = ⟨text, r.datasetOrder f.table.wanted, w⟩ := by
  rcases f.plan_cases w r with ⟨-, hplan⟩ | ⟨text, hcomments, ⟨hfacets, hplan⟩ | ⟨-, hplan⟩⟩ <;>
    rw [h] at hplan
  · cases hplan
  · obtain ⟨hcandidates, hfollowUp⟩ := DatasetPlan.narrowed.inj hplan
    exact ⟨hfacets, hcandidates, text, hcomments, hfollowUp⟩
  · cases hplan

end Plan

end DatasetFilter

namespace FlowFilter

/-- The conditions of a filter. -/
def conditions (f : FlowFilter) : List Predicate :=
  (f.appCode.predicate? "a.app_code" .exact).toList ++
  (f.flow.predicate? "f.flow_name" .substring).toList ++
  (f.job.predicate? "j.job_name" .substring).toList

lemma query_eq (f : FlowFilter) (w : PageWindow) :
    f.query w =
      { f.baseQuery with filters := f.conditions, order := f.order, window := some w } := by
  have hfilters : f.baseQuery.filters = [] := by
    unfold baseQuery
    split <;> rfl
  simp only [query, conditions, Query.filter_eq, Query.orderBy, Query.page, hfilters,
    List.nil_append]

end FlowFilter

end FacetSearch
