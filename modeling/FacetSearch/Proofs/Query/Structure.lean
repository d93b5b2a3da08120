import FacetSearch.Proofs.Sql.Structure
import FacetSearch.Query.Basic

/-!
# Structure that the text of a query keeps

Conditions keep their Boolean structure when they are written out: what a condition joins is read
back from its text, and so are the conditions of a query from its WHERE clause.
-/

namespace FacetSearch

/-- The whole is what joining the parts by a keyword gives. Several parts are read back, wherever
the whole stands in a statement, from what its outer parentheses enclose. -/
def Fragment.Joins (keyword : String) (parts : List Fragment) (whole : Option Fragment) : Prop :=
  match parts with
  | [] => whole = none
  | [f] => whole = some f
  | fs => ∃ f, whole = some f ∧ ∀ bound, ∃ content : String,
      f.text bound = "(" ++ content ++ ")" ∧ Sql.Balanced content.toList ∧
        Sql.operands content = texts bound fs ∧
        Sql.joiners content = List.replicate (fs.length - 1) keyword

namespace Predicate

/-- The keyword and the parts of a predicate that joins parts. A predicate on patterns has a part
for each of them, other parts are the conditions that constrain something. -/
def parts? : Predicate → Option (String × List Fragment)
  | like column patterns negated =>
    some (if negated then "AND" else "OR", patterns.map (likeFragment column negated))
  | and ps => some ("AND", ps.filterMap fragment?)
  | or ps => some ("OR", ps.filterMap fragment?)
  | _ => none

open Sql

lemma operands_join {k : String} (hk : k.toList ∈ keywords) {fs : List Fragment} (hne : fs ≠ [])
    (h : ∀ f ∈ fs, ∀ bound, Condition (f.text bound).toList) (bound : Nat) :
    operands (Fragment.text bound (Fragment.join (" " ++ k ++ " ") fs)) =
        Fragment.texts bound fs ∧
      joiners (Fragment.text bound (Fragment.join (" " ++ k ++ " ") fs)) =
        List.replicate (fs.length - 1) k := by
  have htexts : ∀ s ∈ Fragment.texts bound fs, Free s.toList ∧ depth s.toList = 0 :=
    Fragment.forall_mem_texts (fun f hf bound =>
      ⟨(h f hf bound).free, (h f hf bound).balanced.closed⟩) bound
  have hne' : Fragment.texts bound fs ≠ [] := by
    rwa [← List.length_pos_iff, Fragment.length_texts, List.length_pos_iff]
  have hread := operands_intercalate hne' htexts hk
  rw [String.ofList_toList, Fragment.length_texts] at hread
  rw [Fragment.text_join]
  exact hread

lemma joins_combine {k : String} (hk : k ∈ ["AND", "OR", "UNION"]) {fs : List Fragment}
    (h : ∀ f ∈ fs, ∀ bound, Condition (f.text bound).toList) :
    Fragment.Joins k fs (Fragment.combine (" " ++ k ++ " ") fs) := by
  match fs, h with
  | [], _ => rfl
  | [g], _ => rfl
  | g :: g' :: fs, h =>
    have hkeyword : ∀ k ∈ ["AND", "OR", "UNION"], k.toList ∈ keywords := by decide
    refine ⟨_, rfl, fun bound => ?_⟩
    have hcontent := content_join hk (fun f hf bound => (h f hf bound).toContent) (by simp) bound
    obtain ⟨hoperands, hjoiners⟩ := operands_join (hkeyword k hk) (by simp) h bound
    refine ⟨_, ?_, hcontent.balanced, hoperands, hjoiners⟩
    simp [Fragment.text, Fragment.text_append, String.append_assoc]

/-- A predicate that joins parts shows them in its text. -/
lemma joins_parts {p : Predicate} (h : InertNames p.names) {keyword : String}
    {parts : List Fragment} (hparts : p.parts? = some (keyword, parts)) :
    Fragment.Joins keyword parts p.fragment? := by
  cases p with
  | like column patterns negated =>
    obtain ⟨rfl, rfl⟩ := Prod.mk.inj (Option.some.inj hparts)
    have hpatterns := condition_likeFragments (h column List.mem_cons_self) negated patterns
    cases negated with
    | false => exact joins_combine (by decide) hpatterns
    | true => exact joins_combine (by decide) hpatterns
  | and ps =>
    obtain ⟨rfl, rfl⟩ := Prod.mk.inj (Option.some.inj hparts)
    rw [← fragments_eq_filterMap]
    exact joins_combine (by decide) (condition_fragments ps h)
  | or ps =>
    obtain ⟨rfl, rfl⟩ := Prod.mk.inj (Option.some.inj hparts)
    rw [← fragments_eq_filterMap]
    exact joins_combine (by decide) (condition_fragments ps h)
  | _ => cases hparts

end Predicate

namespace Query

/-- The conditions of a query, as they stand in its statements after the clause for all fields. -/
def conditionTexts (q : Query) : List String :=
  Fragment.texts q.withClause.binds.length (q.filters.filterMap Predicate.fragment?)

/-- The WHERE clause of a query as it stands in its statements. -/
def whereText (q : Query) : String := q.whereClause.text q.withClause.binds.length

lemma text_select (q : Query) (projection : String) :
    (q.select projection).text 0 =
      q.withClause.text 0 ++ ("SELECT " ++ projection ++ " FROM " ++ q.relation) ++
        q.whereText := by
  simp only [select, Fragment.text_append, Fragment.text, whereText, Nat.zero_add,
    String.append_assoc]

lemma whereText_of_conditionTexts_eq_nil {q : Query} (h : q.conditionTexts = []) :
    q.whereText = "" := by
  have hnone : Predicate.fragments q.filters = [] := by
    rwa [Predicate.fragments_eq_filterMap, ← List.length_eq_zero_iff,
      ← Fragment.length_texts q.withClause.binds.length, List.length_eq_zero_iff]
  rw [whereText, whereClause, hnone]
  rfl

/-- The conditions of a query are read back from its WHERE clause. -/
lemma operands_whereText {q : Query} (h : InertNames (Predicate.namesOfAll q.filters))
    (hne : q.conditionTexts ≠ []) :
    ∃ rest : String, q.whereText = " WHERE " ++ rest ∧ Sql.operands rest = q.conditionTexts ∧
      Sql.joiners rest = List.replicate (q.conditionTexts.length - 1) "AND" ∧
      Sql.joiners q.whereText = "WHERE" :: Sql.joiners rest := by
  have hconditions := Predicate.condition_fragments q.filters h
  have hfragments : Predicate.fragments q.filters ≠ [] := by
    rw [Predicate.fragments_eq_filterMap]
    intro hnone
    rw [conditionTexts, hnone] at hne
    exact hne rfl
  obtain ⟨hoperands, hjoiners⟩ := Predicate.operands_join (k := "AND") (by decide) hfragments
    hconditions q.withClause.binds.length
  have htext : q.whereText = " WHERE " ++ Fragment.text q.withClause.binds.length
      (Fragment.join " AND " (Predicate.fragments q.filters)) := by
    rw [whereText, whereClause]
    cases hfs : Predicate.fragments q.filters with
    | nil => exact absurd hfs hfragments
    | cons f fs => rfl
  have hlength : q.conditionTexts.length = (Predicate.fragments q.filters).length := by
    rw [conditionTexts, Fragment.length_texts, Predicate.fragments_eq_filterMap]
  refine ⟨_, htext, ?_, ?_, ?_⟩
  · rw [conditionTexts, ← Predicate.fragments_eq_filterMap]
    exact hoperands
  · rw [hlength]
    exact hjoiners
  · have hfree : Sql.Free "".toList := by decide
    have hwhere := hfree.joiners_join (k := "WHERE".toList) (t := Fragment.text
      q.withClause.binds.length (Fragment.join " AND " (Predicate.fragments q.filters)))
      (by decide) (by decide)
    rw [htext]
    simpa using hwhere

end Query

/-- A predicate is a sound operand wherever it stands in a statement, and what it joins is read back
from it. The WHERE clause of a query has one WHERE outside parentheses, at its beginning, and what
AND joins after it are the conditions of the query that constrain something, in order; without any
there is no clause. -/
theorem text_keeps_structure :
    (∀ p : Predicate, InertNames p.names →
      (∀ f ∈ p.fragment?, ∀ bound, Sql.Sound (f.text bound)) ∧
      ∀ keyword parts, p.parts? = some (keyword, parts) →
        Fragment.Joins keyword parts p.fragment?) ∧
    ∀ q : Query, InertNames (Predicate.namesOfAll q.filters) →
      (∀ projection, (q.select projection).text 0 =
        q.withClause.text 0 ++ ("SELECT " ++ projection ++ " FROM " ++ q.relation) ++
          q.whereText) ∧
      (q.conditionTexts = [] → q.whereText = "") ∧
      (q.conditionTexts ≠ [] → ∃ rest : String, q.whereText = " WHERE " ++ rest ∧
        Sql.operands rest = q.conditionTexts ∧
        Sql.joiners rest = List.replicate (q.conditionTexts.length - 1) "AND" ∧
        Sql.joiners q.whereText = "WHERE" :: Sql.joiners rest) := by
  refine ⟨fun p h => ⟨fun f hf bound => ?_, fun keyword parts => Predicate.joins_parts h⟩,
    fun q h => ⟨q.text_select, Query.whereText_of_conditionTexts_eq_nil,
      Query.operands_whereText h⟩⟩
  exact (Predicate.condition_fragment? p h f hf bound).sound

/-- An OR within an AND keeps its parentheses, and a condition without parts leaves no trace. -/
theorem text_keeps_structure_nested :
    let p : Predicate := .or [.like "d.name" ["%a%", "%b%"] true, .and [],
      .membership "d.id" [.filtered "SELECT f.dataset_id FROM dict_field_detail f"
        (.like "f.field_name" ["%k%"] false), .whole "SELECT dataset_id FROM all_fields"] true]
    let q := ((Query.datasets.filter (some p)).filter (some (.and []))).filter
      (some (.idIn "d.id" []))
    InertNames p.names ∧ (∃ f ∈ p.fragment?, Sql.Sound (f.text 7)) ∧
      (∃ parts, p.parts? = some ("OR", parts) ∧ parts.length = 2 ∧
        Fragment.Joins "OR" parts p.fragment?) ∧
      InertNames (Predicate.namesOfAll q.filters) ∧ q.conditionTexts.length = 2 ∧
      ∃ rest, q.whereText = " WHERE " ++ rest ∧ Sql.operands rest = q.conditionTexts := by
  intro p q
  have hnames : InertNames p.names := by decide
  have hfilters : InertNames (Predicate.namesOfAll q.filters) := by decide
  obtain ⟨hsound, hjoins⟩ := text_keeps_structure.1 p hnames
  obtain ⟨-, -, hwhere⟩ := text_keeps_structure.2 q hfilters
  have htwo : q.conditionTexts.length = 2 := by
    rw [Query.conditionTexts, Fragment.length_texts]
    rfl
  obtain ⟨rest, htext, hoperands, -⟩ := hwhere (List.ne_nil_of_length_pos (by omega))
  exact ⟨hnames, ⟨_, rfl, hsound _ rfl 7⟩, ⟨_, rfl, rfl, hjoins _ _ rfl⟩, hfilters, htwo, rest,
    htext, hoperands⟩

end FacetSearch
