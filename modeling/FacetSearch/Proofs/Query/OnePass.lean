import FacetSearch.Proofs.Sql.OnePass
import FacetSearch.Query.Basic

/-!
# Queries in one pass

A whole query can be compiled in one pass too: its clauses are written one after the other, while
the values of all of them are bound in one list. The number of values that are bound behind the
conditions tells which of them the statements without order and window have. This gives the
statements of the query.
-/

namespace FacetSearch

/-- The clauses of a query as they are written, and the values of all of them in order. -/
structure CompiledQuery where
  withClause : String
  columns : String
  relation : String
  idColumn : String
  whereClause : String
  order : Option String
  limitClause : Option String
  binds : List Bind
  /-- So many of the values belong to the conditions, and to what comes before them. -/
  filterBinds : Nat
  countStrategy : CountStrategy

namespace CompiledQuery

def select (c : CompiledQuery) (projection : String) : String :=
  c.withClause ++ "SELECT " ++ projection ++ " FROM " ++ c.relation ++ c.whereClause

def pageStatement (c : CompiledQuery) : Statement where
  sql := c.select c.columns ++ (c.order.map (" ORDER BY " ++ ·)).getD "" ++ c.limitClause.getD ""
  binds := c.binds

/-- A statement without order and window. -/
def unordered (c : CompiledQuery) (projection : String) : Statement where
  sql := c.select projection
  binds := c.binds.take c.filterBinds

def countStatement (c : CompiledQuery) : Statement := c.unordered "COUNT(*)"

def idsStatement (c : CompiledQuery) : Statement := c.unordered c.idColumn

def hasWhere (c : CompiledQuery) : Bool := !c.whereClause.isEmpty

end CompiledQuery

/-- A WHERE clause to which conditions are added. -/
structure Conditions where
  sql : String := ""
  needsAnd : Bool := false

namespace Conditions

def add (t : Conditions) (condition : String) : Conditions :=
  ⟨t.sql ++ (if t.needsAnd then " AND " else " WHERE ") ++ condition, true⟩

/-- The clause with one more predicate, if that constrains something. -/
def addPredicate (t : Conditions) (p : Predicate) : Binding Conditions :=
  return match ← p.write with
    | none => t
    | some condition => t.add condition

end Conditions

namespace Query

open Binding (place)

def writeWith (q : Query) : Binding String :=
  if q.fieldTerms.isEmpty then return ""
  else return "WITH all_fields AS MATERIALIZED (SELECT fa.dataset_id " ++
    "FROM dict_field_detail fa JOIN unnest(" ++
    (← place (.textArray (q.fieldTerms.map Text.likeContains))) ++
    "::text[]) WITH ORDINALITY AS t(pattern, ord) ON fa.field_name ILIKE t.pattern " ++
    "ESCAPE E'\\\\' GROUP BY fa.dataset_id HAVING COUNT(DISTINCT t.ord) = " ++
    (← place (.bigint q.fieldTerms.length)) ++ ") "

def writeLimit (q : Query) : Binding (Option String) :=
  match q.window with
  | none => return none
  | some w =>
    return some (" LIMIT " ++ (← place (.bigint w.size)) ++ " OFFSET " ++
      (← place (.bigint w.offset)))

/-- The query compiled behind values that are bound already. -/
def write (q : Query) : Binding CompiledQuery := do
  let withClause ← q.writeWith
  let conditions ← q.filters.foldlM Conditions.addPredicate {}
  let filterBinds := (← get).length
  let order ← Order.write q.order
  let limitClause ← q.writeLimit
  return {
    withClause, columns := q.columns, relation := q.relation, idColumn := q.idColumn,
    whereClause := conditions.sql, order, limitClause, binds := ← get, filterBinds,
    countStrategy := q.countStrategy }

def compile (q : Query) : CompiledQuery := (q.write []).1

/-! ## Agreement with fragments -/

open Binding

lemma writes_writeWith (q : Query) : Writes q.writeWith q.withClause := by
  intro bound
  rw [writeWith, withClause]
  split
  · simp [run_pure, Fragment.text]
  · simp only [run_bind, run_pure, run_place]
    simp [Fragment.text, String.append_assoc]

lemma run_writeLimit (q : Query) (bound : List Bind) :
    q.writeLimit bound = (q.window.map fun _ => q.limitClause.text bound.length,
      bound ++ q.limitClause.binds) := by
  rw [writeLimit, limitClause]
  cases q.window with
  | none => simp [run_pure]
  | some w =>
    simp only [run_bind, run_pure, run_place]
    simp [Fragment.text, String.append_assoc]

/-- The conditions are added as they are written, and their values bound. -/
lemma run_addPredicates (ps : List Predicate) (t : Conditions) (bound : List Bind) :
    ps.foldlM Conditions.addPredicate t bound =
      ((Fragment.texts bound.length (Predicate.fragments ps)).foldl Conditions.add t,
        bound ++ (Predicate.fragments ps).flatMap Fragment.binds) := by
  induction ps generalizing t bound with
  | nil => simp [run_pure, Predicate.fragments, Fragment.texts]
  | cons p ps ih =>
    rw [List.foldlM_cons, run_bind, Conditions.addPredicate, run_bind, run_pure,
      p.writesIf_write bound, Predicate.fragments]
    cases p.fragment? with
    | none => simpa using ih t bound
    | some f => simpa [Fragment.texts] using ih (t.add (f.text bound.length)) (bound ++ f.binds)

lemma sql_foldl_add (before condition : String) (conditions : List String) :
    (conditions.foldl Conditions.add ⟨before ++ condition, true⟩).sql =
      before ++ " AND ".intercalate (condition :: conditions) := by
  induction conditions generalizing condition with
  | nil => rfl
  | cons next conditions ih =>
    have hstep : Conditions.add ⟨before ++ condition, true⟩ next =
        ⟨before ++ (condition ++ " AND " ++ next), true⟩ := by
      simp [Conditions.add, String.append_assoc]
    rw [List.foldl_cons, hstep, ih]
    rfl

/-- Added one after the other, conditions give the WHERE clause that joins them. -/
lemma sql_conditions (bound : Nat) (fs : List Fragment) :
    ((Fragment.texts bound fs).foldl Conditions.add {}).sql =
      (Predicate.whereClause fs).text bound := by
  cases fs with
  | nil => rfl
  | cons f fs =>
    have hjoined := sql_foldl_add " WHERE " (f.text bound)
      (Fragment.texts (bound + f.binds.length) fs)
    change _ = " WHERE " ++ Fragment.text bound (Fragment.join " AND " (f :: fs))
    rw [Fragment.text_join]
    exact hjoined

lemma run_get (bound : List Bind) : (get : Binding (List Bind)) bound = (bound, bound) := rfl

lemma binds_orderClause (q : Query) :
    q.orderClause.binds = ((Order.fragment? q.order).getD []).binds := by
  rw [orderClause]
  cases Order.fragment? q.order <;> rfl

lemma text_orderClause (q : Query) (bound : Nat) : q.orderClause.text bound =
    (((Order.fragment? q.order).map (Fragment.text bound)).map (" ORDER BY " ++ ·)).getD "" := by
  rw [orderClause]
  cases Order.fragment? q.order <;> rfl

lemma text_limitClause (q : Query) (bound : Nat) :
    q.limitClause.text bound = (q.window.map fun _ => q.limitClause.text bound).getD "" := by
  rw [limitClause]
  cases q.window <;> rfl

lemma isEmpty_whereClause (q : Query) (bound : Nat) :
    (q.whereClause.text bound).isEmpty = q.whereClause.isEmpty := by
  rw [whereClause]
  cases Predicate.fragments q.filters with
  | nil => rfl
  | cons f fs =>
    change (" WHERE " ++ Fragment.text bound (Fragment.join " AND " (f :: fs))).isEmpty = false
    simp

/-- What compiling a query writes, clause by clause. -/
lemma compile_clauses (q : Query) :
    let before := q.withClause.binds
    let filters := before ++ q.whereClause.binds
    let order := filters ++ q.orderClause.binds
    q.compile = {
      withClause := q.withClause.text 0, columns := q.columns, relation := q.relation,
      idColumn := q.idColumn, whereClause := q.whereClause.text before.length,
      order := (Order.fragment? q.order).map (Fragment.text filters.length),
      limitClause := q.window.map fun _ => q.limitClause.text order.length,
      binds := order ++ q.limitClause.binds, filterBinds := filters.length,
      countStrategy := q.countStrategy } := by
  intro before filters order
  have hwith : q.writeWith [] = (q.withClause.text 0, before) := q.writes_writeWith []
  have hconditions : q.filters.foldlM Conditions.addPredicate {} before =
      ((Fragment.texts before.length (Predicate.fragments q.filters)).foldl Conditions.add {},
        filters) := by
    rw [run_addPredicates, Predicate.binds_fragments, ← Predicate.binds_whereClause]
    rfl
  have horder : Order.write q.order filters =
      ((Order.fragment? q.order).map (Fragment.text filters.length), order) := by
    rw [Order.writesIf_write q.order filters, ← binds_orderClause]
  have hlimit := q.run_writeLimit order
  have hsql := sql_conditions before.length (Predicate.fragments q.filters)
  simp only [compile, write, run_bind, hwith, hconditions, run_get, horder, hlimit, run_pure, hsql]
  rfl

/-- Compiled in one pass, a query has the statements that its fragments give. -/
theorem compile_eq (q : Query) :
    q.compile.pageStatement = q.pageStatement ∧ q.compile.countStatement = q.countStatement ∧
      q.compile.idsStatement = q.idsStatement ∧ q.compile.hasWhere = q.hasWhere ∧
      q.compile.countStrategy = q.countStrategy := by
  have hselect (projection : String) :
      q.compile.select projection = (q.select projection).text 0 := by
    rw [compile_clauses]
    simp [CompiledQuery.select, select, Fragment.text, Fragment.text_append, String.append_assoc]
  have hbinds (projection : String) :
      (q.select projection).binds = q.withClause.binds ++ q.whereClause.binds := by
    rw [select, Fragment.binds_append, Fragment.binds_sql_cons]
  have hunordered (projection : String) :
      q.compile.unordered projection = (q.select projection).statement := by
    refine congrArg₂ Statement.mk (hselect projection) ?_
    rw [compile_clauses, hbinds, List.append_assoc _ q.orderClause.binds, List.take_left]
  refine ⟨?_, hunordered _, ?_, ?_, ?_⟩
  · refine congrArg₂ Statement.mk ?_ ?_
    · rw [hselect, Fragment.text_append, Fragment.text_append, Fragment.binds_append, hbinds,
        text_orderClause, text_limitClause, compile_clauses]
      simp
    · rw [compile_clauses, Fragment.binds_append, Fragment.binds_append, hbinds]
  · rw [CompiledQuery.idsStatement, hunordered, compile_clauses]
    rfl
  · rw [CompiledQuery.hasWhere, hasWhere, compile_clauses, isEmpty_whereClause]
  · rw [compile_clauses]

end Query

end FacetSearch
