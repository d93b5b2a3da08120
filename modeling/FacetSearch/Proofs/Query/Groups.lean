import FacetSearch.Proofs.Database.Storable
import FacetSearch.Proofs.Query.Names

/-!
# Facet groups

Everything but the free text of a dataset filter falls into six groups. The filter decides by its
values whether it constrains anything, while each condition is built for itself. Both come to the
same: a query has one condition for each group that has values.
-/

namespace FacetSearch

/-- The groups of facets, in the order of their conditions. -/
inductive FacetGroup where
  | scope
  | table
  | anyField
  | everyField
  | noField
  | sources
deriving DecidableEq, Repr

namespace FacetGroup

def all : List FacetGroup := [scope, table, anyField, everyField, noField, sources]

/-- The values that a filter gives for a group. -/
def values (f : DatasetFilter) : FacetGroup → List String
  | scope => f.scope.wanted ++ f.scope.unwanted
  | table => f.table.wanted ++ f.table.unwanted
  | anyField => f.fields.anyOf
  | everyField => f.fields.allOf
  | noField => f.fields.noneOf
  | sources => f.sources

/-- The filter with nothing but the values of one group. -/
def alone (f : DatasetFilter) : FacetGroup → DatasetFilter
  | scope => { scope := f.scope }
  | table => { table := f.table }
  | anyField => { fields := { anyOf := f.fields.anyOf } }
  | everyField => { fields := { allOf := f.fields.allOf } }
  | noField => { fields := { noneOf := f.fields.noneOf } }
  | sources => { sources := f.sources }

/-- The columns and sub-selects that the condition of a group names. -/
def names : FacetGroup → List String
  | scope => ["d.parent_name"]
  | table => ["d.name"]
  | anyField | noField =>
    ["d.id", "SELECT f.dataset_id FROM dict_field_detail f", "f.field_name"]
  | everyField => ["d.id", "SELECT dataset_id FROM all_fields"]
  | sources => ["d.source"]

end FacetGroup

/-- The groups that a filter has values for. -/
def DatasetFilter.groups (f : DatasetFilter) : List FacetGroup :=
  FacetGroup.all.filter (·.values f ≠ [])

/-- The facet values that normalization leaves of the options. -/
def DatasetFilter.facetValues (options : Json) : List String :=
  (places options).flatMap Json.valueList

/-- The clause for all fields as it stands at the beginning of statements. -/
def Query.allFieldsText : String :=
  "WITH all_fields AS MATERIALIZED (SELECT fa.dataset_id " ++
    "FROM dict_field_detail fa JOIN unnest(" ++ "$1" ++
    "::text[]) WITH ORDINALITY AS t(pattern, ord) ON fa.field_name ILIKE t.pattern " ++
    "ESCAPE E'\\\\' GROUP BY fa.dataset_id HAVING COUNT(DISTINCT t.ord) = " ++ "$2" ++ ") "

/-- The statements of a query show which groups a filter has values for. -/
structure Query.Reflects (q : Query) (f : DatasetFilter) : Prop where
  hasWhere_eq : q.hasWhere = f.isStructured
  whereText_eq_empty : f.isStructured = false → q.whereText = ""
  /-- The WHERE clause joins what the query would ask for if it were for one group alone. -/
  conjuncts : f.isStructured = true → ∃ rest : String, ∃ cs : List Fragment,
    q.whereText = " WHERE " ++ rest ∧
    List.Forall₂ (fun g c =>
      (g.alone f).structuredQuery.filters.filterMap Predicate.fragment? = [c]) f.groups cs ∧
    Sql.operands rest = Fragment.texts q.withClause.binds.length cs ∧
    Sql.joiners rest = List.replicate (f.groups.length - 1) "AND"
  refers_iff : "all_fields".toList ∈ Sql.identifiers q.whereText.toList ↔ f.fields.allOf ≠ []
  text : ∀ s ∈ q.statements, ∃ projection tail, q.Selects projection tail ∧
    s.sql = (if f.fields.allOf = [] then "" else Query.allFieldsText) ++
      ("SELECT " ++ projection ++ " FROM dict_dataset d") ++ q.whereText ++ tail
  begins_iff : ∀ s ∈ q.statements,
    (Query.allFieldsText.toList <+: s.sql.toList ↔ f.fields.allOf ≠ [])
  binds : f.fields.allOf ≠ [] → ∀ s ∈ q.statements,
    [Bind.textArray (f.fields.allOf.map Text.likeContains), .bigint f.fields.allOf.length] <+:
      s.binds

namespace Clause

lemma constrains_fields? {terms : List String} (h : terms ≠ []) (negated : Bool) :
    Predicate.Constrains FacetGroup.anyField.names (fields? terms negated) := by
  have hterms : ¬ terms.isEmpty = true := by simpa using h
  rw [fields?, if_neg hterms]
  exact ⟨_, rfl, by simp [Predicate.fragment?], List.Subset.refl _⟩

lemma constrains_sources? {sources : List String} (h : sources ≠ []) :
    Predicate.Constrains FacetGroup.sources.names (sources? sources) := by
  have hsources : ¬ sources.isEmpty = true := by simpa using h
  rw [sources?, if_neg hsources]
  exact ⟨_, rfl, by simp [Predicate.fragment?, h], List.Subset.refl _⟩

end Clause

namespace FacetGroup

variable {f : DatasetFilter}

/-- The condition of a group. -/
def condition? (f : DatasetFilter) : FacetGroup → Option Predicate
  | scope => f.scope.predicate? "d.parent_name" .exact
  | table => f.table.predicate? "d.name" .substring
  | anyField => Clause.fields? f.fields.anyOf false
  | everyField => if f.fields.allOf.isEmpty then none else some Query.allFieldsMember
  | noField => Clause.fields? f.fields.noneOf true
  | sources => Clause.sources? f.sources

lemma conditions_eq_flatMap (f : DatasetFilter) :
    f.conditions = all.flatMap fun g => (g.condition? f).toList := by
  have hevery : (if f.fields.allOf.isEmpty then none else some Query.allFieldsMember).toList =
      if f.fields.allOf.isEmpty then [] else [Query.allFieldsMember] := by
    split <;> rfl
  simp only [all, List.flatMap_cons, List.flatMap_nil, hevery, DatasetFilter.conditions,
    condition?, List.append_assoc, List.append_nil]

/-- Without values a group has no condition. -/
lemma condition?_of_empty {g : FacetGroup} (h : g.values f = []) : g.condition? f = none := by
  cases g with
  | scope => exact ValueFacet.predicate?_of_empty _ _ h
  | table => exact ValueFacet.predicate?_of_empty _ _ h
  | anyField => rw [condition?, show f.fields.anyOf = [] from h]; rfl
  | everyField => rw [condition?, show f.fields.allOf = [] from h]; rfl
  | noField => rw [condition?, show f.fields.noneOf = [] from h]; rfl
  | sources => rw [condition?, show f.sources = [] from h]; rfl

/-- With values it has one. -/
lemma constrains_condition? {g : FacetGroup} (h : g.values f ≠ []) :
    Predicate.Constrains g.names (g.condition? f) := by
  cases g with
  | scope => exact ValueFacet.constrains_predicate? _ _ h
  | table => exact ValueFacet.constrains_predicate? _ _ h
  | anyField => exact Clause.constrains_fields? h false
  | everyField =>
    have hterms : f.fields.allOf ≠ [] := h
    rw [condition?, if_neg (by simpa using hterms)]
    exact ⟨_, rfl, rfl, List.Subset.refl _⟩
  | noField => exact Clause.constrains_fields? h true
  | sources => exact Clause.constrains_sources? h

/-- A filter for one group alone has the condition of this group. -/
lemma conditions_alone (f : DatasetFilter) (g : FacetGroup) :
    (g.alone f).conditions = (g.condition? f).toList := by
  have halone : ∀ g', g'.condition? (g.alone f) = if g' = g then g.condition? f else none := by
    intro g'
    cases g <;> cases g' <;> rfl
  rw [conditions_eq_flatMap, funext halone]
  cases g <;> simp [all]

end FacetGroup

namespace DatasetFilter

variable {f : DatasetFilter}

lemma mem_groups {g : FacetGroup} : g ∈ f.groups ↔ g.values f ≠ [] := by
  have hall : g ∈ FacetGroup.all := by cases g <;> decide
  simp [groups, hall]

lemma groups_eq_nil_iff : f.groups = [] ↔ ∀ g ∈ FacetGroup.all, g.values f = [] := by
  simp [groups]

lemma groups_ne_nil_iff : f.groups ≠ [] ↔ f.isStructured = true := by
  have hempty : (∀ g ∈ FacetGroup.all, g.values f = []) ↔ f.isStructured = false := by
    simp [FacetGroup.all, FacetGroup.values, isStructured, ValueFacet.isEmpty, FieldFacet.isEmpty,
      and_assoc]
  rw [ne_eq, groups_eq_nil_iff, hempty, Bool.not_eq_false]

/-- The conditions of a filter are those of the groups it has values for. -/
lemma conditions_eq (f : DatasetFilter) :
    f.conditions = f.groups.flatMap fun g => (g.condition? f).toList := by
  rw [FacetGroup.conditions_eq_flatMap, groups]
  induction FacetGroup.all with
  | nil => rfl
  | cons g gs ih =>
    rw [List.flatMap_cons, ih, List.filter_cons]
    by_cases hvalues : g.values f = []
    · simp [hvalues, FacetGroup.condition?_of_empty hvalues]
    · simp [hvalues]

/-- Each group that has values gives one conjunct, in order. -/
lemma exists_conjuncts (f : DatasetFilter) : ∃ cs,
    List.Forall₂ (fun g c => (g.alone f).structuredQuery.filters.filterMap Predicate.fragment? = [c])
      f.groups cs ∧
    f.conditions.filterMap Predicate.fragment? = cs := by
  have hvalues : ∀ g ∈ f.groups, g.values f ≠ [] := fun g hg => mem_groups.mp hg
  -- The groups are generalized with their values: these are what gives each of them a condition.
  rw [conditions_eq]
  revert hvalues
  induction f.groups with
  | nil => exact fun _ => ⟨[], .nil, rfl⟩
  | cons g gs ih =>
    intro hvalues
    obtain ⟨cs, hgroups, hcs⟩ := ih fun g' hg' => hvalues g' (List.mem_cons_of_mem g hg')
    obtain ⟨p, hp, hsome, -⟩ := FacetGroup.constrains_condition? (hvalues g List.mem_cons_self)
    obtain ⟨c, hc⟩ := Option.isSome_iff_exists.mp hsome
    have hcondition : g.condition? f = some p := hp
    refine ⟨c :: cs, .cons ?_ hgroups, ?_⟩
    · rw [structuredQuery_eq, FacetGroup.conditions_alone, hcondition]
      simp [hc]
    · rw [List.flatMap_cons, List.filterMap_append, hcs, hcondition]
      simp [hc]

lemma namesOfAll_conditions (f : DatasetFilter) :
    Predicate.namesOfAll f.conditions ⊆ f.groups.flatMap FacetGroup.names := by
  intro name hname
  rw [Predicate.namesOfAll_eq_flatMap, conditions_eq] at hname
  obtain ⟨p, hp, hname⟩ := List.mem_flatMap.mp hname
  obtain ⟨g, hg, hp⟩ := List.mem_flatMap.mp hp
  obtain ⟨p', hp', -, hnames⟩ := FacetGroup.constrains_condition? (mem_groups.mp hg)
  have hsame : p' = p := Option.mem_unique hp' (Option.mem_toList.mp hp)
  exact List.mem_flatMap.mpr ⟨g, hg, hnames (hsame ▸ hname)⟩

lemma inertNames_conditions (f : DatasetFilter) :
    InertNames (Predicate.namesOfAll f.conditions) := by
  have hgroup : ∀ g : FacetGroup, InertNames g.names := by
    intro g
    cases g <;> decide
  intro name hname
  obtain ⟨g, -, hname⟩ := List.mem_flatMap.mp (f.namesOfAll_conditions hname)
  exact hgroup g name hname

end DatasetFilter

namespace Query

/-- Sub-selects refer to the clause for all fields in one group only. -/
lemma refers_allFields {g : FacetGroup} {name : String} (hname : name ∈ g.names)
    (hrefers : "all_fields".toList ∈ Sql.identifiers name.toList) : g = .everyField := by
  have hnames : ∀ g : FacetGroup, g ≠ .everyField → ∀ name ∈ g.names,
      "all_fields".toList ∉ Sql.identifiers name.toList := by
    intro g
    cases g <;> decide
  by_contra hg
  exact hnames g hg name hname hrefers

lemma refers_allFieldsMember : ∃ c, allFieldsMember.fragment? = some c ∧
    ∀ bound, "all_fields".toList ∈ Sql.identifiers (c.text bound).toList := by
  have hrefers : "all_fields".toList ∈
      Sql.identifiers "d.id IN (SELECT dataset_id FROM all_fields)".toList := by decide
  exact ⟨_, rfl, fun bound => hrefers⟩

variable {f : DatasetFilter} {q : Query}

/-- What a query for the facets of a filter takes from it. -/
structure IsFor (q : Query) (f : DatasetFilter) : Prop where
  filters_eq : q.filters = f.conditions
  fieldTerms_eq : q.fieldTerms = f.fields.allOf
  relation_eq : q.relation = "dict_dataset d"

lemma IsFor.refers_iff (h : q.IsFor f) :
    "all_fields".toList ∈ Sql.identifiers q.whereText.toList ↔ f.fields.allOf ≠ [] := by
  constructor
  · intro hrefers
    have hmade := q.madeOf_whereText
    rw [h.filters_eq] at hmade
    rcases hmade.mono f.namesOfAll_conditions _ hrefers with hword | hnumber | ⟨name, hname, hmem⟩
    · exact absurd hword (by decide)
    · exact absurd hnumber (by decide)
    · obtain ⟨g, hg, hname⟩ := List.mem_flatMap.mp hname
      rw [refers_allFields hname hmem] at hg
      exact DatasetFilter.mem_groups.mp hg
  · intro hne
    have hgroup : FacetGroup.everyField ∈ f.groups := DatasetFilter.mem_groups.mpr hne
    have hcondition : FacetGroup.everyField.condition? f = some allFieldsMember := by
      rw [FacetGroup.condition?, if_neg (by simpa using hne)]
    have hfilter : allFieldsMember ∈ q.filters := by
      rw [h.filters_eq, f.conditions_eq]
      exact List.mem_flatMap.mpr ⟨_, hgroup, by rw [hcondition]; exact List.mem_cons_self⟩
    obtain ⟨c, hc, hrefers⟩ := refers_allFieldsMember
    obtain ⟨bound, htext⟩ := exists_text_mem_conditionTexts hfilter hc
    exact mem_identifiers_whereText htext (hrefers bound)

lemma IsFor.text_withClause (h : q.IsFor f) :
    q.withClause.text 0 = if f.fields.allOf = [] then "" else allFieldsText := by
  rw [withClause, h.fieldTerms_eq]
  by_cases hterms : f.fields.allOf = []
  · rw [hterms]
    rfl
  · have hfirst : "$" ++ toString (0 + 1) = "$1" := rfl
    have hsecond : "$" ++ toString (0 + 1 + 1) = "$2" := rfl
    rw [if_neg (by simpa using hterms), if_neg hterms]
    unfold allFieldsText
    simp only [Fragment.text]
    rw [hfirst, hsecond]
    simp only [String.append_assoc, String.append_empty]

lemma IsFor.binds_withClause (h : q.IsFor f) (hterms : f.fields.allOf ≠ []) :
    q.withClause.binds =
      [.textArray (f.fields.allOf.map Text.likeContains), .bigint f.fields.allOf.length] := by
  rw [withClause, h.fieldTerms_eq, if_neg (by simpa using hterms)]
  rfl

lemma IsFor.text (h : q.IsFor f) {s : Statement} (hs : s ∈ q.statements) :
    ∃ projection tail, q.Selects projection tail ∧
      s.sql = (if f.fields.allOf = [] then "" else allFieldsText) ++
        ("SELECT " ++ projection ++ " FROM dict_dataset d") ++ q.whereText ++ tail := by
  obtain ⟨projection, tail, hselects, hsql⟩ := exists_selects hs
  refine ⟨projection, tail, hselects, ?_⟩
  have hrelation : "SELECT " ++ projection ++ " FROM " ++ "dict_dataset d" =
      "SELECT " ++ projection ++ " FROM dict_dataset d" := String.append_assoc
  rw [hsql, h.text_withClause, h.relation_eq, hrelation]

lemma IsFor.begins_iff (h : q.IsFor f) {s : Statement} (hs : s ∈ q.statements) :
    allFieldsText.toList <+: s.sql.toList ↔ f.fields.allOf ≠ [] := by
  obtain ⟨projection, tail, -, hsql⟩ := h.text hs
  by_cases hterms : f.fields.allOf = []
  · have hwith : allFieldsText.toList.head? = some 'W' := by
      unfold allFieldsText
      simp only [String.toList_append, List.head?_append]
      rfl
    have hselect : s.sql.toList.head? = some 'S' := by
      simp [hsql, hterms]
    refine iff_of_false ?_ (not_not_intro hterms)
    rintro ⟨rest, hrest⟩
    rw [← hrest, List.head?_append, hwith] at hselect
    cases hselect
  · rw [hsql, if_neg hterms]
    simp only [String.toList_append, List.append_assoc]
    exact iff_of_true (List.prefix_append _ _) hterms

lemma IsFor.reflects (h : q.IsFor f) : q.Reflects f := by
  obtain ⟨cs, hgroups, hcs⟩ := f.exists_conjuncts
  have hfragments : q.filters.filterMap Predicate.fragment? = cs := by rw [h.filters_eq, hcs]
  have htexts : q.conditionTexts = Fragment.texts q.withClause.binds.length cs := by
    rw [conditionTexts, hfragments]
  have hlength : q.conditionTexts.length = f.groups.length := by
    rw [htexts, Fragment.length_texts, hgroups.length_eq]
  have hnil : q.conditionTexts = [] ↔ f.isStructured = false := by
    rw [← List.length_eq_zero_iff, hlength, List.length_eq_zero_iff,
      ← Bool.not_eq_true, ← DatasetFilter.groups_ne_nil_iff, not_not]
  refine ⟨?_, fun hplain => whereText_of_conditionTexts_eq_nil (hnil.mpr hplain), ?_, h.refers_iff,
    fun s => h.text, fun s => h.begins_iff, ?_⟩
  · rw [Bool.eq_iff_iff, hasWhere_iff, ne_eq, hnil, Bool.not_eq_false]
  · intro hstructured
    have hne : q.conditionTexts ≠ [] := by
      rw [ne_eq, hnil, hstructured]
      decide
    have hinert : InertNames (Predicate.namesOfAll q.filters) := by
      rw [h.filters_eq]
      exact f.inertNames_conditions
    obtain ⟨rest, hwhere, hoperands, hjoiners, -⟩ := operands_whereText hinert hne
    rw [hlength] at hjoiners
    exact ⟨rest, cs, hwhere, hgroups, hoperands.trans htexts, hjoiners⟩
  · intro hterms s hs
    rw [← h.binds_withClause hterms]
    exact prefix_binds hs

end Query

namespace DatasetFilter

lemma reflects_structuredQuery (f : DatasetFilter) (order : List OrderKey)
    (window : Option PageWindow) :
    Query.Reflects { f.structuredQuery with order := order, window := window } f := by
  apply Query.IsFor.reflects
  rw [structuredQuery_eq]
  exact ⟨rfl, rfl, rfl⟩

lemma groups_ofMembers (options : Json) :
    (ofMembers options).groups = [] ↔ facetValues options = [] := by
  rw [groups_eq_nil_iff]
  simp [FacetGroup.all, FacetGroup.values, facetValues, places, ofMembers, ValueFacet.ofSection,
    FieldFacet.ofSection, sectionList, and_assoc]

/-- The test of a filter for facets agrees with the conditions of its query, group by group, and
decides between the plans. The candidates of a narrowed search are always under conditions. -/
theorem groups_decide_conditions :
    (∀ (f : DatasetFilter) (order : List OrderKey) (window : Option PageWindow),
      Query.Reflects { f.structuredQuery with order := order, window := window } f) ∧
    ∀ (options : Json) (f : DatasetFilter), ofOptions? options = some f →
      ∀ (w : PageWindow) (r : Ranking),
        ((∃ q, f.plan w r = .freeText q) ↔
          freeText? (options.member? "comments") ≠ none ∧ facetValues options = []) ∧
        ((∃ candidates followUp, f.plan w r = .narrowed candidates followUp) ↔
          freeText? (options.member? "comments") ≠ none ∧ facetValues options ≠ []) ∧
        ((∃ q, f.plan w r = .structured q) ↔ freeText? (options.member? "comments") = none) ∧
        (∀ q, f.plan w r = .structured q → q.Reflects f) ∧
        ∀ candidates followUp, f.plan w r = .narrowed candidates followUp →
          candidates.Reflects f ∧ candidates.hasWhere = true := by
  refine ⟨reflects_structuredQuery, fun options f hf w r => ?_⟩
  have hmembers : f = ofMembers options := by
    cases options with
    | object members => exact (Option.some.inj hf).symm
    | _ => cases hf
  have hfree : freeText? (options.member? "comments") = f.comments := by rw [hmembers]; rfl
  have hvalues : facetValues options = [] ↔ f.isStructured = false := by
    rw [← groups_ofMembers, ← hmembers, ← Bool.not_eq_true, ← groups_ne_nil_iff, not_not]
  have hplans :
      ((∃ q, f.plan w r = .freeText q) ↔ f.comments ≠ none ∧ facetValues options = []) ∧
      ((∃ candidates followUp, f.plan w r = .narrowed candidates followUp) ↔
        f.comments ≠ none ∧ facetValues options ≠ []) ∧
      ((∃ q, f.plan w r = .structured q) ↔ f.comments = none) := by
    rcases f.plan_cases w r with ⟨hcomments, hplan⟩ | ⟨text, hcomments, ⟨hfacets, hplan⟩ |
      ⟨hfacets, hplan⟩⟩
    · simp [hplan, hcomments]
    · simp [hplan, hcomments, hvalues, hfacets]
    · simp [hplan, hcomments, hvalues, hfacets]
  have hnarrowed : ∀ candidates followUp, f.plan w r = .narrowed candidates followUp →
      candidates.Reflects f ∧ candidates.hasWhere = true := by
    intro candidates followUp hplan
    obtain ⟨hfacets, rfl, -⟩ := eq_of_plan_narrowed hplan
    have hreflects := f.reflects_structuredQuery [] none
    rw [structuredQuery_eq] at hreflects ⊢
    exact ⟨hreflects, hreflects.hasWhere_eq.trans hfacets⟩
  have hstructured : ∀ q, f.plan w r = .structured q → q.Reflects f := by
    intro q hplan
    obtain ⟨-, rfl⟩ := eq_of_plan_structured hplan
    exact f.reflects_structuredQuery _ _
  rw [hfree]
  exact ⟨hplans.1, hplans.2.1, hplans.2.2, hstructured, hnarrowed⟩

/-- Scope and fields that are all wanted narrow a search for free text: the candidates come from
two conditions, of which the second refers to the clause for all fields. -/
theorem groups_decide_conditions_narrowed :
    let options : Json := .object [("comments", .string " rate "),
      ("table", .object [("in", .string " , ")]),
      ("scope", .object [("not", .string "raw")]),
      ("fields", .object [("all", .string "key, id")])]
    let f : DatasetFilter :=
      { scope := { unwanted := ["raw"] }
        fields := { allOf := ["key", "id"] }
        comments := some "rate" }
    DatasetFilter.ofOptions? options = some f ∧ f.groups = [.scope, .everyField] ∧
      ∃ candidates followUp, f.plan (.clamp 1 10) ⟨[], 9⟩ = .narrowed candidates followUp ∧
        candidates.hasWhere = true ∧
        (∃ rest, candidates.whereText = " WHERE " ++ rest ∧ (Sql.operands rest).length = 2) ∧
        "all_fields".toList ∈ Sql.identifiers candidates.whereText.toList ∧
        [Bind.textArray ["%key%", "%id%"], .bigint 2] <+: candidates.idsStatement.binds := by
  intro options f
  have hoptions : DatasetFilter.ofOptions? options = some f := by decide
  have hgroups : f.groups = [.scope, .everyField] := by decide
  obtain ⟨-, hplans⟩ := groups_decide_conditions
  obtain ⟨-, hnarrowed, -, -, hcandidates⟩ := hplans options f hoptions (.clamp 1 10) ⟨[], 9⟩
  obtain ⟨candidates, followUp, hplan⟩ := hnarrowed.mpr ⟨by decide, by decide⟩
  obtain ⟨hreflects, hwhere⟩ := hcandidates candidates followUp hplan
  obtain ⟨rest, cs, htext, hall, hoperands, -⟩ := hreflects.conjuncts (by decide)
  have hterms : f.fields.allOf ≠ [] := by decide
  have hlength : (Sql.operands rest).length = 2 := by
    rw [hoperands, Fragment.length_texts, ← hall.length_eq, hgroups]
    rfl
  have hbinds := hreflects.binds hterms candidates.idsStatement (by simp [Query.statements])
  exact ⟨hoptions, hgroups, candidates, followUp, hplan, hwhere, ⟨rest, htext, hlength⟩,
    hreflects.refers_iff.mpr hterms, hbinds⟩

end DatasetFilter

end FacetSearch
