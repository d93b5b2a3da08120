import FacetSearch.Proofs.Query.Placeholder
import FacetSearch.Proofs.Query.Plan
import FacetSearch.Proofs.Query.Structure

/-!
# How queries are built

A query is built in steps. Its conditions come from the steps that constrain it, its order, window
and strategy from the last step that sets each of them. The statements for the count and for the
identifiers are those of the page without its order and window, so they know of the former only.
-/

namespace FacetSearch

namespace Query

/-- A step in building a query. -/
inductive BuildStep where
  | filter (condition : Option Predicate)
  | allFields (terms : List String)
  | orderBy (order : List OrderKey)
  | page (window : PageWindow)
  | countBy (strategy : CountStrategy)

namespace BuildStep

/-- The conditions that a step adds. -/
def conditions : BuildStep → List Predicate
  | filter condition => condition.toList
  | allFields terms => if terms.isEmpty then [] else [allFieldsMember]
  | _ => []

def fieldTerms? : BuildStep → Option (List String)
  | allFields terms => if terms.isEmpty then none else some terms
  | _ => none

def order? : BuildStep → Option (List OrderKey)
  | orderBy order => some order
  | _ => none

def window? : BuildStep → Option PageWindow
  | page window => some window
  | _ => none

def strategy? : BuildStep → Option CountStrategy
  | countBy strategy => some strategy
  | _ => none

/-- Whether a step is about the conditions, and not about order, window and strategy. -/
def constrains : BuildStep → Bool
  | filter _ | allFields _ => true
  | _ => false

end BuildStep

def apply (q : Query) : BuildStep → Query
  | .filter condition => q.filter condition
  | .allFields terms => q.withAllFields terms
  | .orderBy order => q.orderBy order
  | .page window => q.page window
  | .countBy strategy => q.countBy strategy

def build (q : Query) (steps : List BuildStep) : Query := steps.foldl apply q

/-- The query with nothing but its conditions. -/
def bare (q : Query) : Query :=
  { q with order := [], window := none, countStrategy := .samePredicate }

/-- What order and window add to the statement of the page. -/
def tail (q : Query) : Fragment := q.orderClause ++ q.limitClause

section Build

lemma apply_eq (q : Query) (s : BuildStep) :
    q.apply s =
      { q with
        fieldTerms := s.fieldTerms?.getD q.fieldTerms
        filters := q.filters ++ s.conditions
        order := s.order?.getD q.order
        window := s.window?.or q.window
        countStrategy := s.strategy?.getD q.countStrategy } := by
  cases s with
  | filter condition =>
    rw [apply, filter_eq]
    rfl
  | allFields terms =>
    rw [apply, withAllFields_eq]
    cases terms <;> rfl
  | orderBy order =>
    simp only [BuildStep.conditions, List.append_nil]
    rfl
  | page window =>
    simp only [BuildStep.conditions, List.append_nil]
    rfl
  | countBy strategy =>
    simp only [BuildStep.conditions, List.append_nil]
    rfl

lemma getLast?_filterMap_cons {α β : Type} (f : α → Option β) (a : α) (l : List α) :
    ((a :: l).filterMap f).getLast? = ((l.filterMap f).getLast?).or (f a) := by
  rw [List.filterMap_cons]
  cases f a with
  | none => rw [Option.or_none]
  | some b => rw [List.getLast?_cons, Option.or_some]

/-- What a query becomes in a run of steps. -/
lemma build_eq (q : Query) (steps : List BuildStep) :
    q.build steps =
      { q with
        fieldTerms := (steps.filterMap BuildStep.fieldTerms?).getLast?.getD q.fieldTerms
        filters := q.filters ++ steps.flatMap BuildStep.conditions
        order := (steps.filterMap BuildStep.order?).getLast?.getD q.order
        window := (steps.filterMap BuildStep.window?).getLast?.or q.window
        countStrategy := (steps.filterMap BuildStep.strategy?).getLast?.getD q.countStrategy } := by
  induction steps generalizing q with
  | nil => simp [build]
  | cons s steps ih =>
    have hstep : q.build (s :: steps) = (q.apply s).build steps := rfl
    simp only [hstep, ih, apply_eq, getLast?_filterMap_cons, List.flatMap_cons, List.append_assoc,
      Option.or_assoc, Option.getD_or]

end Build

section Bare

variable {q q' : Query} {s : BuildStep}

lemma bare_apply_of_constrains (h : s.constrains = true) : (q.apply s).bare = q.bare.apply s := by
  cases s with
  | filter condition => simp only [apply, bare, filter_eq]
  | allFields terms => simp only [apply, bare, withAllFields_eq]
  | _ => cases h

lemma bare_apply_of_not_constrains (h : s.constrains = false) : (q.apply s).bare = q.bare := by
  cases s with
  | filter condition => cases h
  | allFields terms => cases h
  | _ => rfl

/-- Only the steps that constrain a query change its conditions. -/
lemma bare_build (q : Query) (steps : List BuildStep) :
    (q.build steps).bare = q.bare.build (steps.filter BuildStep.constrains) := by
  -- A step that constrains is also taken by the bare query, any other one leaves it as it is.
  induction steps generalizing q with
  | nil => rfl
  | cons s steps ih =>
    have hrun : (q.build (s :: steps)).bare =
        (q.apply s).bare.build (steps.filter BuildStep.constrains) := ih (q.apply s)
    rw [hrun]
    cases hs : s.constrains with
    | true =>
      rw [bare_apply_of_constrains hs, List.filter_cons_of_pos hs]
      rfl
    | false => rw [bare_apply_of_not_constrains hs, List.filter_cons_of_neg (by simp [hs])]

/-- The count and the identifiers are those of the conditions. -/
lemma statements_of_bare_eq (h : q.bare = q'.bare) :
    q.countStatement = q'.countStatement ∧ q.idsStatement = q'.idsStatement := by
  have hcount : q.bare.countStatement = q'.bare.countStatement := by rw [h]
  have hids : q.bare.idsStatement = q'.bare.idsStatement := by rw [h]
  exact ⟨hcount, hids⟩

lemma pageStatement_eq (q : Query) :
    q.pageStatement =
      ⟨q.withClause.text 0 ++ ("SELECT " ++ q.columns ++ " FROM " ++ q.relation) ++ q.whereText ++
        q.tail.text q.countStatement.binds.length, q.countStatement.binds ++ q.tail.binds⟩ := by
  have htext : (q.select q.columns ++ q.tail).text 0 =
      (q.select q.columns).text 0 ++ q.tail.text (q.select q.columns).binds.length := by
    rw [Fragment.text_append, Nat.zero_add]
  have hbinds : (q.select q.columns).binds = q.countStatement.binds := by
    rw [countStatement, Fragment.statement, binds_select, binds_select]
  rw [pageStatement, List.append_assoc, Fragment.statement, ← tail, htext, text_select,
    Fragment.binds_append, hbinds]

lemma bare_pageQuery (f : DatasetFilter) (w w' : PageWindow) (r r' : Ranking) (ids : List Int) :
    ((f.plan w r).pageQuery ids).bare = ((f.plan w' r').pageQuery ids).bare := by
  unfold DatasetFilter.plan
  cases f.comments with
  | none => rfl
  | some text => cases f.isStructured <;> rfl

end Bare

/-- Page, count and identifiers of a query are over the same rows: their statements share the
clause for all fields, the relation and the conditions, and only the page is ordered and cut to a
window. Built in steps, a query has the conditions of all steps in order, and the order, window and
strategy that were set last. Its count and identifiers do not change with the steps that set these
three, wherever they stand; so the count of a search is the same for every window and ranking. -/
theorem count_forgets_arrangement :
    (∀ q : Query,
      q.pageStatement =
        ⟨q.withClause.text 0 ++ ("SELECT " ++ q.columns ++ " FROM " ++ q.relation) ++ q.whereText ++
          q.tail.text q.countStatement.binds.length, q.countStatement.binds ++ q.tail.binds⟩ ∧
      q.countStatement =
        ⟨q.withClause.text 0 ++ ("SELECT COUNT(*) FROM " ++ q.relation) ++ q.whereText,
          q.withClause.binds ++ q.whereClause.binds⟩ ∧
      q.idsStatement =
        ⟨q.withClause.text 0 ++ ("SELECT " ++ q.idColumn ++ " FROM " ++ q.relation) ++ q.whereText,
          q.withClause.binds ++ q.whereClause.binds⟩) ∧
    (∀ (q : Query) (steps : List BuildStep), q.build steps =
      { q with
        fieldTerms := (steps.filterMap BuildStep.fieldTerms?).getLast?.getD q.fieldTerms
        filters := q.filters ++ steps.flatMap BuildStep.conditions
        order := (steps.filterMap BuildStep.order?).getLast?.getD q.order
        window := (steps.filterMap BuildStep.window?).getLast?.or q.window
        countStrategy := (steps.filterMap BuildStep.strategy?).getLast?.getD q.countStrategy }) ∧
    (∀ (q : Query) (steps steps' : List BuildStep),
      steps.filter BuildStep.constrains = steps'.filter BuildStep.constrains →
        (q.build steps).countStatement = (q.build steps').countStatement ∧
        (q.build steps).idsStatement = (q.build steps').idsStatement) ∧
    (∀ (f : DatasetFilter) (w w' : PageWindow) (r r' : Ranking) (ids : List Int),
      ((f.plan w r).pageQuery ids).countStatement =
        ((f.plan w' r').pageQuery ids).countStatement) ∧
    ∀ (f : FlowFilter) (w w' : PageWindow),
      (f.query w).countStatement = (f.query w').countStatement := by
  refine ⟨?_, build_eq, ?_, ?_, ?_⟩
  · intro q
    have hselect (projection : String) : (q.select projection).statement =
        ⟨q.withClause.text 0 ++ ("SELECT " ++ projection ++ " FROM " ++ q.relation) ++ q.whereText,
          q.withClause.binds ++ q.whereClause.binds⟩ := by
      rw [Fragment.statement, text_select, binds_select]
    exact ⟨pageStatement_eq q, hselect "COUNT(*)", hselect q.idColumn⟩
  · intro q steps steps' h
    apply statements_of_bare_eq
    rw [bare_build, bare_build, h]
  · intro f w w' r r' ids
    exact (statements_of_bare_eq (bare_pageQuery f w w' r r' ids)).1
  · intro f w w'
    have hbare : (f.query w).bare = (f.query w').bare := by
      rw [FlowFilter.query_eq, FlowFilter.query_eq]
      rfl
    exact (statements_of_bare_eq hbare).1

/-- Order, windows and a strategy between the conditions, or an order before them, give one count,
which binds the source and the two values for all fields. -/
theorem count_forgets_arrangement_between :
    let hive : Predicate := .anyOf "d.source" ["hive"] false
    let steps : List BuildStep :=
      [.page ⟨3, 20⟩, .filter (some hive), .orderBy [.column "d.urn"], .filter none,
        .countBy .twoStage, .allFields ["id"], .page ⟨1, 5⟩]
    let steps' : List BuildStep :=
      [.orderBy [.tiered [⟨.like "d.urn" ["x%"] false, 1⟩] 9], .filter (some hive), .filter none,
        .allFields ["id"]]
    steps.filter BuildStep.constrains = steps'.filter BuildStep.constrains ∧
      (datasets.build steps).countStatement = (datasets.build steps').countStatement ∧
      (datasets.build steps).countStatement.binds.length = 3 ∧
      (datasets.build steps).pageStatement.binds.length = 5 := by
  intro hive steps steps'
  have hconditions : steps.filter BuildStep.constrains = steps'.filter BuildStep.constrains := rfl
  obtain ⟨hcount, -⟩ := count_forgets_arrangement.2.2.1 datasets steps steps' hconditions
  exact ⟨hconditions, hcount, rfl, rfl⟩

end Query

end FacetSearch
