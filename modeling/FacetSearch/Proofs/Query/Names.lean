import FacetSearch.Proofs.Query.Building
import FacetSearch.Proofs.Sql.Identifiers

/-!
# Names in the statements of a query

The statements of a query have their conditions in common. They differ in what they select, and
only the page has something after the conditions. The names in a WHERE clause are those of the
conditions.
-/

namespace FacetSearch

lemma Fragment.exists_text_mem_texts {c : Fragment} {fs : List Fragment} (h : c ∈ fs)
    (bound : Nat) : ∃ b, c.text b ∈ texts bound fs := by
  induction fs generalizing bound with
  | nil => exact absurd h List.not_mem_nil
  | cons f fs ih =>
    rcases List.mem_cons.mp h with rfl | h
    · exact ⟨bound, List.mem_cons_self⟩
    · obtain ⟨b, hb⟩ := ih h (bound + f.binds.length)
      exact ⟨b, List.mem_cons_of_mem _ hb⟩

/-- There is a condition, it constrains something and names nothing but the given. -/
def Predicate.Constrains (names : List String) (condition : Option Predicate) : Prop :=
  ∃ p ∈ condition, p.fragment?.isSome = true ∧ p.names ⊆ names

lemma Predicate.namesOfAll_eq_flatMap (ps : List Predicate) :
    namesOfAll ps = ps.flatMap names := by
  induction ps with
  | nil => rfl
  | cons p ps ih => rw [namesOfAll, ih, List.flatMap_cons]

namespace ValueFacet

variable {f : ValueFacet}

lemma side?_nil (column : String) (m : Match) (negated : Bool) :
    side? column m [] negated = none := rfl

lemma constrains_side? (column : String) (m : Match) {values : List String} (h : values ≠ [])
    (negated : Bool) : Predicate.Constrains [column] (side? column m values negated) := by
  have hside : side? column m values negated = some (m.predicate column values negated) := by
    rw [side?, if_neg (by simpa using h)]
  refine ⟨_, hside, ?_, ?_⟩
  · cases m with
    | substring => simp [Match.predicate, Predicate.fragment?, Fragment.isSome_combine, h]
    | exact => simp [Match.predicate, Predicate.fragment?, h]
  · cases m <;> exact List.Subset.refl _

lemma predicate?_of_empty (column : String) (m : Match) (h : f.wanted ++ f.unwanted = []) :
    f.predicate? column m = none := by
  obtain ⟨hwanted, hunwanted⟩ := List.append_eq_nil_iff.mp h
  rw [predicate?, hwanted, hunwanted, side?_nil, side?_nil]

/-- A facet with values, wanted or not, gives one condition. -/
lemma constrains_predicate? (column : String) (m : Match) (h : f.wanted ++ f.unwanted ≠ []) :
    Predicate.Constrains [column] (f.predicate? column m) := by
  unfold predicate?
  by_cases hwanted : f.wanted = []
  · have hunwanted : f.unwanted ≠ [] := by simpa [hwanted] using h
    obtain ⟨p, hp, hsome, hnames⟩ := constrains_side? column m hunwanted true
    rw [hwanted, side?_nil, hp]
    exact ⟨p, rfl, hsome, hnames⟩
  · obtain ⟨p, hp, hsome, hnames⟩ := constrains_side? column m hwanted false
    rw [hp]
    by_cases hunwanted : f.unwanted = []
    · rw [hunwanted, side?_nil]
      exact ⟨p, rfl, hsome, hnames⟩
    · obtain ⟨p', hp', hsome', hnames'⟩ := constrains_side? column m hunwanted true
      obtain ⟨c, hc⟩ := Option.isSome_iff_exists.mp hsome
      rw [hp']
      refine ⟨.and [p, p'], rfl, ?_, ?_⟩
      · rw [Predicate.fragment?, Fragment.isSome_combine, Predicate.fragments, hc]
        rfl
      · have hall : Predicate.namesOfAll [p, p'] = p.names ++ (p'.names ++ []) := rfl
        rw [Predicate.names, hall, List.append_nil]
        exact List.append_subset_of_subset_of_subset hnames hnames'

lemma names_predicate? (column : String) (m : Match) (f : ValueFacet) :
    ∀ p ∈ f.predicate? column m, p.names ⊆ [column] := by
  intro p hp
  by_cases h : f.wanted ++ f.unwanted = []
  · rw [predicate?_of_empty column m h] at hp
    cases hp
  · obtain ⟨p', hp', -, hnames⟩ := constrains_predicate? column m h
    exact Option.mem_unique hp' hp ▸ hnames

/-- The condition of a facet mentions its column. -/
lemma mentions_predicate? (column : String) (m : Match) (f : ValueFacet) :
    ∀ p ∈ f.predicate? column m, ∀ c ∈ p.fragment?, Predicate.Mentions column c := by
  have hside : ∀ values negated, ∀ p ∈ side? column m values negated, ∀ c ∈ p.fragment?,
      Predicate.Mentions column c := by
    intro values negated p hp
    unfold side? at hp
    split at hp
    · cases hp
    · obtain rfl := Option.some.inj hp
      cases m with
      | substring => exact Predicate.mentions_like _ negated
      | exact => exact Predicate.mentions_anyOf _ negated
  have hwanted := hside f.wanted false
  have hunwanted := hside f.unwanted true
  unfold predicate?
  rintro p hp
  split at hp
  · cases hp
  · next q hq _ =>
    cases hp
    exact hwanted _ hq
  · next q _ hq =>
    cases hp
    exact hunwanted _ hq
  · next q q' hq hq' =>
    cases hp
    exact Predicate.mentions_and (hwanted _ hq) (hunwanted _ hq')

end ValueFacet

namespace Query

variable {q : Query}

/-- The page, the count and the identifiers. -/
def statements (q : Query) : List Statement := [q.pageStatement, q.countStatement, q.idsStatement]

/-- The order and the window as they stand in the statement of the page. -/
def tailText (q : Query) : String := q.tail.text q.countStatement.binds.length

/-- A statement of the query selects `projection`, and `tail` follows its conditions. -/
def Selects (q : Query) (projection tail : String) : Prop :=
  projection = q.columns ∧ tail = q.tailText ∨ projection ∈ ["COUNT(*)", q.idColumn] ∧ tail = ""

/-- Each statement begins with the values of the clause for all fields. -/
lemma prefix_binds {s : Statement} (h : s ∈ q.statements) : q.withClause.binds <+: s.binds := by
  have hselect : ∀ projection, q.withClause.binds <+: (q.select projection).statement.binds :=
    fun projection => ⟨_, (q.binds_select projection).symm⟩
  rcases List.mem_cons.mp h with rfl | h
  · rw [binds_pageStatement]
    exact (hselect "COUNT(*)").trans (List.prefix_append _ _)
  · rcases List.mem_pair.mp h with rfl | rfl
    · exact hselect "COUNT(*)"
    · exact hselect q.idColumn

lemma sql_pageStatement (q : Query) :
    q.pageStatement.sql = q.withClause.text 0 ++ ("SELECT " ++ q.columns ++ " FROM " ++ q.relation) ++
      q.whereText ++ q.tailText := by
  have hlength : (q.select q.columns).binds.length = q.countStatement.binds.length := by
    rw [countStatement, Fragment.statement, binds_select, binds_select]
  rw [pageStatement, List.append_assoc, Fragment.statement, Fragment.text_append, text_select,
    hlength, Nat.zero_add]
  rfl

/-- What the statements of a query are made of. -/
lemma exists_selects {s : Statement} (h : s ∈ q.statements) :
    ∃ projection tail, q.Selects projection tail ∧
      s.sql = q.withClause.text 0 ++ ("SELECT " ++ projection ++ " FROM " ++ q.relation) ++
        q.whereText ++ tail := by
  have hbare : ∀ projection, (q.select projection).statement.sql =
      q.withClause.text 0 ++ ("SELECT " ++ projection ++ " FROM " ++ q.relation) ++
        q.whereText ++ "" := by
    intro projection
    rw [String.append_empty]
    exact q.text_select projection
  rcases List.mem_cons.mp h with rfl | h
  · exact ⟨q.columns, q.tailText, .inl ⟨rfl, rfl⟩, q.sql_pageStatement⟩
  · rcases List.mem_pair.mp h with rfl | rfl
    · exact ⟨"COUNT(*)", "", .inr ⟨List.mem_cons_self, rfl⟩, hbare _⟩
    · exact ⟨q.idColumn, "", .inr ⟨by simp, rfl⟩, hbare _⟩

/-- The WHERE clause joins the conditions. -/
lemma whereText_eq (h : q.conditionTexts ≠ []) :
    q.whereText = " WHERE " ++ " AND ".intercalate q.conditionTexts := by
  rw [whereText, whereClause, conditionTexts, ← Fragment.text_join, Predicate.fragments_eq_filterMap]
  cases hfs : q.filters.filterMap Predicate.fragment? with
  | nil =>
    rw [conditionTexts, hfs] at h
    exact absurd rfl h
  | cons f fs => rfl

lemma hasWhere_iff : q.hasWhere = true ↔ q.conditionTexts ≠ [] := by
  rw [hasWhere, whereClause, conditionTexts, ← Predicate.fragments_eq_filterMap]
  cases Predicate.fragments q.filters with
  | nil => exact iff_of_false (by decide) (not_not_intro rfl)
  | cons c cs => exact iff_of_true rfl (List.cons_ne_nil _ _)

/-- A condition that constrains something stands in the WHERE clause. -/
lemma exists_text_mem_conditionTexts {p : Predicate} (hp : p ∈ q.filters) {c : Fragment}
    (hc : p.fragment? = some c) : ∃ bound, c.text bound ∈ q.conditionTexts :=
  Fragment.exists_text_mem_texts (List.mem_filterMap.mpr ⟨p, hp, hc⟩) _

open Sql

lemma toList_whereText (h : q.conditionTexts ≠ []) :
    q.whereText.toList = ' ' :: ("WHERE".toList ++
      ' ' :: (' ' :: ("AND".toList ++ [' '])).intercalate (q.conditionTexts.map String.toList)) := by
  rw [whereText_eq h, String.toList_append, String.toList_intercalate]
  rfl

/-- What a condition refers to, the WHERE clause refers to. -/
lemma mem_identifiers_whereText {s : String} (hs : s ∈ q.conditionTexts) {w : List Char}
    (hw : w ∈ identifiers s.toList) : w ∈ identifiers q.whereText.toList := by
  have hne : q.conditionTexts ≠ [] := List.ne_nil_of_mem hs
  rw [toList_whereText hne, identifiers_cons (by decide), identifiers_append_cons (by decide)]
  refine List.mem_append_right _ (mem_identifiers_intercalate (List.mem_map_of_mem hs) hw)

lemma madeOf_whereText (q : Query) :
    MadeOf (Predicate.namesOfAll q.filters) q.whereText.toList := by
  by_cases hne : q.conditionTexts = []
  · rw [whereText_of_conditionTexts_eq_nil hne]
    exact madeOf_words _ (by decide)
  · have hconditions := Predicate.madeOf_fragments q.filters
    rw [Predicate.fragments_eq_filterMap] at hconditions
    have htexts : ∀ s ∈ q.conditionTexts.map String.toList,
        MadeOf (Predicate.namesOfAll q.filters) s := by
      have hmade := Fragment.forall_mem_texts
        (P := fun s => MadeOf (Predicate.namesOfAll q.filters) s.toList) hconditions
        q.withClause.binds.length
      simpa [conditionTexts] using hmade
    have hand : MadeOf (Predicate.namesOfAll q.filters) "AND".toList :=
      madeOf_words _ (by decide)
    have hwhere : MadeOf (Predicate.namesOfAll q.filters) "WHERE".toList :=
      madeOf_words _ (by decide)
    rw [toList_whereText hne]
    have hjoined := (hand.intercalate htexts).cons (show isNameChar ' ' = false by decide)
    exact (hwhere.append hjoined rfl).cons (by decide)

lemma identifiers_whereText (h : q.conditionTexts ≠ []) : ∃ ws,
    identifiers q.whereText.toList = "WHERE".toList :: ws := by
  rw [toList_whereText h, identifiers_cons (by decide), identifiers_append_cons (by decide)]
  exact ⟨_, rfl⟩

lemma isApart_whereText (q : Query) : isApart q.whereText.toList = true := by
  by_cases hne : q.conditionTexts = []
  · rw [whereText_of_conditionTexts_eq_nil hne]
    rfl
  · rw [toList_whereText hne]
    rfl

lemma isApart_tailText (q : Query) : isApart q.tailText.toList = true := by
  have horder : ∀ bound, isApart (q.orderClause.text bound).toList = true := by
    intro bound
    unfold orderClause
    split
    · rfl
    · exact isApart_text_sql (by decide) (by decide) _ bound
  have hlimit : ∀ bound, isApart (q.limitClause.text bound).toList = true := by
    intro bound
    unfold limitClause
    split
    · rfl
    · exact isApart_text_sql (by decide) (by decide) _ bound
  rw [tailText, tail, Fragment.text_append, String.toList_append]
  exact isApart_append (horder _) (hlimit _)

/-- The words of a statement without a clause for all fields. -/
lemma identifiers_of_selects (hterms : q.fieldTerms = []) {projection tail sql : String}
    (h : q.Selects projection tail)
    (hsql : sql = q.withClause.text 0 ++ ("SELECT " ++ projection ++ " FROM " ++ q.relation) ++
      q.whereText ++ tail) :
    identifiers sql.toList = "SELECT".toList :: identifiers projection.toList ++
      "FROM".toList :: (identifiers q.relation.toList ++
        (identifiers q.whereText.toList ++ identifiers tail.toList)) := by
  have hwith : q.withClause.text 0 = "" := by
    rw [withClause, hterms]
    rfl
  have htail : isApart tail.toList = true := by
    rcases h with ⟨-, rfl⟩ | ⟨-, rfl⟩
    · exact q.isApart_tailText
    · rfl
  have hlast := isApart_append q.isApart_whereText htail
  have htext : sql.toList = "SELECT".toList ++ ' ' :: (projection.toList ++
      ' ' :: ("FROM".toList ++ ' ' :: (q.relation.toList ++ (q.whereText.toList ++ tail.toList)))) := by
    simp [hsql, hwith]
  rw [htext, identifiers_append_cons (by decide), identifiers_append_cons (by decide),
    identifiers_append_cons (by decide), identifiers_append _ hlast, identifiers_append _ htail]
  rfl

end Query

end FacetSearch
