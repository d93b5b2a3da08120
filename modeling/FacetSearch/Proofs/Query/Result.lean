import FacetSearch.Proofs.Catalog.Snapshot
import FacetSearch.Query.Plan

/-!
# Results of queries

What the statements of a query give over one snapshot. The clause for all fields and the window
are read from the clauses as they are sent; rows that the order leaves level may come in any
order. The statements for the count and for the identifiers are pages of queries over the same
rows.
-/

namespace FacetSearch

namespace Query

section Rows

variable (rules : TextRules) (s : Snapshot) (q : Query)

/-- The datasets that the clause for all fields computes from its two values. -/
def allFieldIds : List Int :=
  match q.withClause with
  | [.sql opening, .value (.textArray patterns), .sql middle, .value (.bigint count),
      .sql closing] =>
    if opening = "WITH all_fields AS MATERIALIZED (SELECT fa.dataset_id " ++
          "FROM dict_field_detail fa JOIN unnest(" ∧
        middle = "::text[]) WITH ORDINALITY AS t(pattern, ord) ON fa.field_name ILIKE t.pattern " ++
          "ESCAPE E'\\\\' GROUP BY fa.dataset_id HAVING COUNT(DISTINCT t.ord) = " ∧
        closing = ") " then
      s.allFields rules patterns count
    else []
  | _ => []

/-- What the sub-selects of the query range over. -/
def heads : Heads := s.heads (q.allFieldIds rules s)

/-- Whether all conditions of the query are true on a row. -/
def keeps (t : Tuple) : Bool :=
  Truth.all (Predicate.truths rules (q.heads rules s) t q.filters) == .yes

/-- The rows that fulfil the conditions. -/
def rows : List Tuple := (s.relation q.relation).filter (q.keeps rules s)

/-- The cells by which the query sorts a row. -/
def sortCells (t : Tuple) : List Cell := Order.cells rules (q.heads rules s) t q.order

/-- The order allows the first row to come before the second one. -/
def NotAfter (t u : Tuple) : Prop :=
  cellsNotAfter rules (q.sortCells rules s t) (q.sortCells rules s u) = true

/-- The rows of the window among sorted rows. -/
def cut (sorted : List Tuple) : List Tuple :=
  match q.limitClause with
  | [.sql limit, .value (.bigint size), .sql skip, .value (.bigint offset)] =>
    if limit = " LIMIT " ∧ skip = " OFFSET " then (sorted.drop offset.toNat).take size.toNat
    else sorted
  | _ => sorted

/-- The rows that one run of the page statement may give. -/
def Gives (out : List Tuple) : Prop :=
  ∃ sorted : List Tuple, sorted.Perm (q.rows rules s) ∧ sorted.Pairwise (q.NotAfter rules s) ∧
    out = q.cut sorted

end Rows

/-- The query whose page is the number of all rows. -/
def counting (q : Query) : Query := { q with columns := "COUNT(*)", order := [], window := none }

/-- The query whose page is the identifiers of all rows. -/
def identifying (q : Query) : Query := { q with columns := q.idColumn, order := [], window := none }

section Basic

variable {rules : TextRules} {s : Snapshot} {q : Query}

lemma countStatement_eq_counting (q : Query) : q.countStatement = q.counting.pageStatement := by
  simp only [countStatement, pageStatement, counting, orderClause, limitClause,
    Order.fragment?, List.filterMap_nil, List.append_nil]
  rfl

lemma idsStatement_eq_identifying (q : Query) :
    q.idsStatement = q.identifying.pageStatement := by
  simp only [idsStatement, pageStatement, identifying, orderClause, limitClause,
    Order.fragment?, List.filterMap_nil, List.append_nil]
  rfl

lemma keeps_iff {t : Tuple} :
    q.keeps rules s t = true ↔
      ∀ p ∈ q.filters, p.holds rules (q.heads rules s) t = true := by
  rw [keeps, beq_iff_eq, Predicate.all_truths_eq_yes]

lemma mem_rows {t : Tuple} :
    t ∈ q.rows rules s ↔ t ∈ s.relation q.relation ∧
      ∀ p ∈ q.filters, p.holds rules (q.heads rules s) t = true := by
  rw [rows, List.mem_filter, keeps_iff]

lemma allFieldIds_of_isEmpty (h : q.fieldTerms = []) : q.allFieldIds rules s = [] := by
  rw [allFieldIds, withClause, h]
  rfl

lemma mem_allFieldIds (h : q.fieldTerms ≠ []) {id : Int} :
    id ∈ q.allFieldIds rules s ↔
      ∀ term ∈ q.fieldTerms, ∃ name ∈ s.fieldNames id, rules.Contains name term := by
  have hempty : q.fieldTerms.isEmpty = false := by simpa using h
  have hids : q.allFieldIds rules s = s.allFields rules (q.fieldTerms.map Text.likeContains)
      (q.fieldTerms.map Text.likeContains).length := by
    simp [allFieldIds, withClause, hempty]
  rw [hids, s.mem_allFields (by simpa using h), List.forall_mem_map]
  simp only [TextRules.like_likeContains]

lemma cut_none (h : q.window = none) (sorted : List Tuple) : q.cut sorted = sorted := by
  rw [cut, limitClause, h]

lemma cut_some {w : PageWindow} (h : q.window = some w) (sorted : List Tuple) :
    q.cut sorted = (sorted.drop w.offset.toNat).take w.size.toNat := by
  rw [cut, limitClause, h]
  exact if_pos ⟨rfl, rfl⟩

lemma cut_sublist (q : Query) (sorted : List Tuple) : (q.cut sorted).Sublist sorted := by
  cases hwindow : q.window with
  | none =>
    rw [cut_none hwindow]
  | some w =>
    rw [cut_some hwindow]
    exact (List.take_sublist _ _).trans (List.drop_sublist _ _)

/-- A run gives nothing but rows that fulfil the conditions. -/
lemma Gives.subset {out : List Tuple} (h : q.Gives rules s out) : out ⊆ q.rows rules s := by
  obtain ⟨sorted, hperm, -, rfl⟩ := h
  intro t ht
  exact hperm.subset ((q.cut_sublist sorted).subset ht)

/-- Without a window a run gives all rows. -/
lemma Gives.perm {out : List Tuple} (h : q.Gives rules s out) (hwindow : q.window = none) :
    out.Perm (q.rows rules s) := by
  obtain ⟨sorted, hperm, -, rfl⟩ := h
  rw [cut_none hwindow]
  exact hperm

/-- What is counted are the rows of the query. -/
lemma Gives.perm_of_counting {out : List Tuple} (h : q.counting.Gives rules s out) :
    out.Perm (q.rows rules s) :=
  h.perm rfl

end Basic

/-- The identifiers are those of the rows, in any order. -/
def Identifies (q : Query) (rules : TextRules) (s : Snapshot) (ids : List Int) : Prop :=
  (ids.map Cell.bigint).Perm ((q.rows rules s).map fun t => t.cell q.idColumn)

end Query

namespace Snapshot

/-- What a list of columns gives for the rows of a result. -/
def project (columns : String) (out : List Tuple) : List Row :=
  if columns = "COUNT(*)" then [[.bigint out.length]]
  else out.map fun t => (Text.commaItems columns).map t.cell

end Snapshot

/-- The database answers the page statement of a query from a snapshot, whatever was sent
before. -/
def Database.Evaluates (db : Database) (rules : TextRules) (s : Snapshot) (q : Query) : Prop :=
  ∀ log, ∃ out, q.Gives rules s out ∧
    db.answer log (.query q.pageStatement) = .rows (Snapshot.project q.columns out)

end FacetSearch
