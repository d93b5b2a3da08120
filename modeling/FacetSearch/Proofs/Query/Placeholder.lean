import FacetSearch.Proofs.Sql.Inlined
import FacetSearch.Query.Basic

/-!
# Places and values of a query's statements

The three statements of a query number their places from one upwards, one for each value they
bind. The values of the count and of the identifiers are the same, and the first ones of the
page. Each value belongs to the comparison at whose place its number stands.
-/

namespace FacetSearch.Query

/-- The fixed texts that a query writes into its statements: its base, the column names and the
heads of sub-selects. -/
def names (q : Query) : List String :=
  [q.columns, q.relation, q.idColumn] ++ Predicate.namesOfAll q.filters ++
    q.order.flatMap OrderKey.names

section Inlined

variable (literal : Bind → String) (q : Query)

/-- The rows that fulfil the conditions, with every value written in place. -/
def inlinedSelect (projection : String) : String :=
  (if q.fieldTerms.isEmpty then "" else
    "WITH all_fields AS MATERIALIZED (SELECT fa.dataset_id FROM dict_field_detail fa " ++
    "JOIN unnest(" ++ literal (.textArray (q.fieldTerms.map Text.likeContains)) ++
    "::text[]) WITH ORDINALITY AS t(pattern, ord) ON fa.field_name ILIKE t.pattern " ++
    "ESCAPE E'\\\\' GROUP BY fa.dataset_id HAVING COUNT(DISTINCT t.ord) = " ++
    literal (.bigint q.fieldTerms.length) ++ ") ") ++
  "SELECT " ++ projection ++ " FROM " ++ q.relation ++
  match Predicate.inlinedAll literal q.filters with
  | [] => ""
  | conditions => " WHERE " ++ " AND ".intercalate conditions

/-- The order of a page, with every value written in place. -/
def inlinedOrder : String :=
  match Order.inlined? literal q.order with
  | none => ""
  | some order => " ORDER BY " ++ order

/-- The window of a page, with its size and its offset in place. -/
def inlinedWindow : String :=
  match q.window with
  | none => ""
  | some w => " LIMIT " ++ literal (.bigint w.size) ++ " OFFSET " ++ literal (.bigint w.offset)

/-- A page, with every value written in place. -/
def inlinedPage : String :=
  q.inlinedSelect literal q.columns ++ q.inlinedOrder literal ++ q.inlinedWindow literal

lemma inlined_withClause :
    Fragment.inlined literal q.withClause =
      if q.fieldTerms.isEmpty then "" else
        "WITH all_fields AS MATERIALIZED (SELECT fa.dataset_id FROM dict_field_detail fa " ++
        "JOIN unnest(" ++ literal (.textArray (q.fieldTerms.map Text.likeContains)) ++
        "::text[]) WITH ORDINALITY AS t(pattern, ord) ON fa.field_name ILIKE t.pattern " ++
        "ESCAPE E'\\\\' GROUP BY fa.dataset_id HAVING COUNT(DISTINCT t.ord) = " ++
        literal (.bigint q.fieldTerms.length) ++ ") " := by
  rw [withClause]
  split
  · rfl
  · simp [Fragment.inlined, String.append_assoc]

lemma inlined_whereClause :
    Fragment.inlined literal q.whereClause =
      match Predicate.inlinedAll literal q.filters with
      | [] => ""
      | conditions => " WHERE " ++ " AND ".intercalate conditions := by
  rw [whereClause, ← Predicate.map_inlined_fragments]
  cases Predicate.fragments q.filters with
  | nil => rfl
  | cons f fs =>
    have hconditions := Fragment.inlined_join literal " AND " (f :: fs)
    simp only [Predicate.whereClause, Fragment.inlined, hconditions, List.map_cons]

lemma inlined_select (projection : String) :
    Fragment.inlined literal (q.select projection) = q.inlinedSelect literal projection := by
  rw [select, Fragment.inlined_append, Fragment.inlined, inlined_withClause, inlined_whereClause,
    inlinedSelect]
  simp only [String.append_assoc]

lemma inlined_orderClause : Fragment.inlined literal q.orderClause = q.inlinedOrder literal := by
  rw [orderClause, inlinedOrder, ← Order.map_inlined_fragment?]
  cases Order.fragment? q.order with
  | none => rfl
  | some f => rfl

lemma inlined_limitClause : Fragment.inlined literal q.limitClause = q.inlinedWindow literal := by
  rw [limitClause, inlinedWindow]
  cases q.window with
  | none => rfl
  | some w => simp [Fragment.inlined, String.append_assoc]

end Inlined

section Closed

variable {q : Query}

lemma closed_withClause (q : Query) : q.withClause.Closed := by
  rw [withClause]
  split
  · trivial
  · exact ⟨by simp, by simp [Fragment.EndsNumber], by simp, by simp [Fragment.EndsNumber], by simp,
      trivial⟩

lemma closed_whereClause (h : DollarFree q.names) : q.whereClause.Closed := by
  have hnames : DollarFree (Predicate.namesOfAll q.filters) := fun name hname =>
    h name (List.mem_append_left _ (List.mem_append_right _ hname))
  have hconditions := Predicate.closed_fragments q.filters hnames
  rw [whereClause]
  cases hfs : Predicate.fragments q.filters with
  | nil => trivial
  | cons f fs =>
    rw [hfs] at hconditions
    exact ⟨by decide, Fragment.Closed.join (by decide) hconditions⟩

lemma closed_select (h : DollarFree q.names) {projection : String}
    (hprojection : '$' ∉ projection.toList) : (q.select projection).Closed := by
  have hrelation : '$' ∉ q.relation.toList :=
    h q.relation (List.mem_append_left _ (List.mem_append_left _ (by simp)))
  have hhead : '$' ∉ ("SELECT " ++ projection ++ " FROM " ++ q.relation).toList := by
    simp [hprojection, hrelation]
  exact (closed_withClause q).append ⟨hhead, closed_whereClause h⟩

lemma closed_orderClause (h : DollarFree q.names) : q.orderClause.Closed := by
  have hnames : DollarFree (q.order.flatMap OrderKey.names) := fun name hname =>
    h name (List.mem_append_right _ hname)
  rw [orderClause]
  split
  · trivial
  · next f hf => exact ⟨by decide, Order.closed_fragment? hnames f hf⟩

lemma legible_page (h : DollarFree q.names) :
    Fragment.Legible (q.select q.columns ++ q.orderClause ++ q.limitClause) := by
  have hcolumns : '$' ∉ q.columns.toList :=
    h q.columns (List.mem_append_left _ (List.mem_append_left _ (by simp)))
  have hordered := (closed_select h hcolumns).append (closed_orderClause h)
  rw [limitClause]
  cases q.window with
  | none =>
    rw [List.append_nil]
    exact .inl hordered
  | some w =>
    have hlimit : Fragment.Closed
        [.sql " LIMIT ", .value (.bigint w.size), .sql " OFFSET "] :=
      ⟨by decide, ⟨' ', rfl, rfl⟩, by decide, trivial⟩
    exact .inr ⟨_, .bigint w.offset, hordered.append hlimit, by simp⟩

end Closed

lemma binds_select (q : Query) (projection : String) :
    (q.select projection).binds = q.withClause.binds ++ q.whereClause.binds := by
  rw [select, Fragment.binds_append, Fragment.binds_sql_cons]

lemma binds_pageStatement (q : Query) :
    q.pageStatement.binds =
      q.countStatement.binds ++ (q.orderClause.binds ++ q.limitClause.binds) := by
  simp only [pageStatement, countStatement, Fragment.statement, Fragment.binds_append,
    binds_select, List.append_assoc]

/-- Each statement of a query whose names hold no dollar sign has the places one, two, … up to
the number of its values, and putting the values into them gives the query with each of them in
its own place. The count and the identifiers bind what the page binds first; the size and the
offset of the window come last. -/
theorem places_number_values (q : Query) (h : DollarFree q.names) :
    q.pageStatement.places = List.range' 1 q.pageStatement.binds.length ∧
    q.countStatement.places = List.range' 1 q.countStatement.binds.length ∧
    q.idsStatement.places = List.range' 1 q.idsStatement.binds.length ∧
    q.countStatement.binds <+: q.pageStatement.binds ∧
    q.idsStatement.binds = q.countStatement.binds ∧
    (∀ literal : Bind → String,
      q.pageStatement.filled literal = q.inlinedPage literal ∧
      q.countStatement.filled literal = q.inlinedSelect literal "COUNT(*)" ∧
      q.idsStatement.filled literal = q.inlinedSelect literal q.idColumn) ∧
    (∀ w ∈ q.window, [.bigint w.size, .bigint w.offset] <:+ q.pageStatement.binds) := by
  have hidColumn : '$' ∉ q.idColumn.toList :=
    h q.idColumn (List.mem_append_left _ (List.mem_append_left _ (by simp)))
  have hpage := legible_page h
  have hcount : (q.select "COUNT(*)").Legible := .inl (closed_select h (by decide))
  have hids : (q.select q.idColumn).Legible := .inl (closed_select h hidColumn)
  refine ⟨hpage.places, hcount.places, hids.places, ?_, ?_, ?_, ?_⟩
  · rw [binds_pageStatement]
    exact List.prefix_append _ _
  · simp only [idsStatement, countStatement, Fragment.statement, binds_select]
  · intro literal
    refine ⟨?_, ?_, ?_⟩
    · rw [pageStatement, hpage.filled, Fragment.inlined_append, Fragment.inlined_append,
        inlined_select, inlined_orderClause, inlined_limitClause, inlinedPage]
    · rw [countStatement, hcount.filled, inlined_select]
    · rw [idsStatement, hids.filled, inlined_select]
  · intro w hw
    have hlimit : q.limitClause.binds = [.bigint w.size, .bigint w.offset] := by
      rw [limitClause, Option.mem_def.mp hw]
      rfl
    rw [binds_pageStatement, hlimit, ← List.append_assoc]
    exact List.suffix_append _ _

/-- A page with a condition of two patterns, terms for all fields, a tier and a window binds
seven values. -/
theorem places_number_values_seven :
    let q := (((datasets.filter (some (.like "d.name" ["%a%", "%b%"] true))).withAllFields
      ["id", "key"]).orderBy [.tiered [⟨.like "d.urn" ["x%"] false, 1⟩] 9, .column "d.id"]).page
      ⟨3, 20⟩
    DollarFree q.names ∧ q.pageStatement.places = [1, 2, 3, 4, 5, 6, 7] ∧
      q.countStatement.places = [1, 2, 3, 4] ∧
      [.bigint 20, .bigint 40] <:+ q.pageStatement.binds := by
  intro q
  have hfree : DollarFree q.names := by
    simp [q, DollarFree, names, datasets, filter, withAllFields, orderBy, page, allFieldsMember,
      Predicate.namesOfAll, Predicate.names, Predicate.namesOfSelects, Predicate.namesOfSelect,
      OrderKey.names]
  obtain ⟨hpage, hcount, -, -, -, -, hwindow⟩ := places_number_values q hfree
  exact ⟨hfree, hpage, hcount, hwindow ⟨3, 20⟩ rfl⟩

end FacetSearch.Query
