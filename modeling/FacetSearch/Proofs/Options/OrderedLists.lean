import FacetSearch.Proofs.Options.NormalForm
import FacetSearch.Proofs.Text.Separators

/-!
# Lists of options as ordered sets

A list of the options is read as an ordered set of items. Lists that are joined with a comma are
read as the first, with what is new in the second after it. An array is read as all that its texts,
numbers and truth values are read as one by one.
-/

namespace FacetSearch

/-! ## Joined lists -/

namespace Text

lemma splitList_append (a b : String) :
    splitList (a ++ "," ++ b) = splitList a ++ (splitList b).filter (· ∉ splitList a) := by
  rw [splitList, commaItems_append, appendNew_append, appendNew_eq_append_filter]
  rfl

lemma splitList_intercalate (texts : List String) :
    splitList (",".intercalate texts) = appendNew [] (texts.flatMap splitList) := by
  rw [splitList, commaItems_intercalate]
  exact (appendNew_flatMap commaItems [] texts).symm

lemma splitList_of_surrounds {texts texts' : List String} (h : List.Forall₂ Surrounds texts texts') :
    splitList (",".intercalate texts') = splitList (",".intercalate texts) := by
  rw [splitList, splitList, commaItems_of_surrounds h]

end Text

/-! ## Values of facets -/

namespace Json

/-- A string, a number or a truth value. -/
def isScalarValue : Json → Bool
  | string _ | number _ | bool _ => true
  | null | array _ | object _ => false

/-- The value that is reached by the keys, from the outermost on. -/
def under? : List String → Json → Option Json
  | [], v => some v
  | key :: path, v => (v.member? key).bind (under? path)

lemma isSome_scalarText? (v : Json) : v.scalarText?.isSome = v.isScalarValue := by
  cases v <;> rfl

lemma valueList_of_scalarText? {v : Json} {s : String} (h : v.scalarText? = some s) :
    valueList (some v) = Text.splitList s := by
  have htext : v.valueText? = some s := by
    cases v with
    | array items => cases h
    | _ => exact h
  rw [valueList, Option.bind_some, htext]

/-- An array without what is no scalar gives the same texts. -/
lemma flatMap_scalars (items : List Json) :
    ((items.filter isScalarValue).flatMap fun item => valueList (some item)) =
      (items.filterMap scalarText?).flatMap Text.splitList := by
  induction items with
  | nil => rfl
  | cons item items ih =>
    have hscalar := isSome_scalarText? item
    cases htext : item.scalarText? with
    | none =>
      have hother : ¬ item.isScalarValue = true := by simp [← hscalar, htext]
      rw [List.filter_cons_of_neg hother, List.filterMap_cons_none htext, ih]
    | some s =>
      have hkept : item.isScalarValue = true := by simp [← hscalar, htext]
      rw [List.filter_cons_of_pos hkept, List.filterMap_cons_some htext, List.flatMap_cons,
        List.flatMap_cons, valueList_of_scalarText? htext, ih]

lemma valueList_array (items : List Json) :
    valueList (some (array items)) =
      Text.splitList (",".intercalate (items.filterMap scalarText?)) := rfl

/-- An array yields what its scalars yield alone. -/
lemma firstOccurrences_array (items : List Json) :
    Text.FirstOccurrences ((items.filter isScalarValue).flatMap fun item => valueList (some item))
      (valueList (some (array items))) := by
  rw [flatMap_scalars, valueList_array, Text.splitList_intercalate]
  exact Text.firstOccurrences_appendNew _

end Json

/-! ## Facets of filters -/

/-- The lists of one section, each with its path of keys. -/
def inSection (part : String) (lists : List (String × List String)) :
    List (List String × List String) :=
  lists.map fun (key, items) => ([part, key], items)

/-- The lists of the filter, each with the path of keys to its value in the options. -/
def DatasetFilter.facets (f : DatasetFilter) : List (List String × List String) :=
  inSection "scope" f.scope.lists ++ inSection "table" f.table.lists ++
    inSection "fields" f.fields.lists ++ [(["sources"], f.sources)]

/-- The lists of the filter, as for datasets. -/
def FlowFilter.facets (f : FlowFilter) : List (List String × List String) :=
  inSection "appcode" f.appCode.lists ++ inSection "flow" f.flow.lists ++
    inSection "job" f.job.lists

/-- The options are read as a filter that has this set as the facet under the path. -/
inductive GivesFacet (options : Json) (path set : List String) : Prop where
  | ofDatasets {f : DatasetFilter} (read : DatasetFilter.ofOptions? options = some f)
    (mem : (path, set) ∈ f.facets)
  | ofFlows {f : FlowFilter} (read : FlowFilter.ofOptions? options = some f)
    (mem : (path, set) ∈ f.facets)

lemma eq_valueList_of_mem_inSection {options : Json} {part : String}
    {lists : List (String × List String)}
    (h : ∀ list ∈ lists, list.2 = sectionList (options.member? part) list.1)
    {path set : List String} (hmem : (path, set) ∈ inSection part lists) :
    set = Json.valueList (options.under? path) := by
  obtain ⟨⟨key, items⟩, hlist, heq⟩ := List.mem_map.mp hmem
  obtain ⟨rfl, rfl⟩ := Prod.mk.inj heq
  have hunder : options.under? [part, key] = (options.member? part).bind (Json.member? key) := by
    simp [Json.under?]
  rw [hunder]
  exact h _ hlist

lemma ValueFacet.eq_sectionList (part : Option Json) :
    ∀ list ∈ (ofSection part).lists, list.2 = sectionList part list.1 := by
  simp [lists, ofSection]

lemma FieldFacet.eq_sectionList (part : Option Json) :
    ∀ list ∈ (ofSection part).lists, list.2 = sectionList part list.1 := by
  simp [lists, ofSection]

lemma GivesFacet.eq_valueList {options : Json} {path set : List String}
    (h : GivesFacet options path set) : set = Json.valueList (options.under? path) := by
  cases h with
  | ofDatasets hread hmem =>
    obtain rfl := DatasetFilter.eq_ofMembers hread
    simp only [DatasetFilter.facets, List.mem_append, List.mem_singleton] at hmem
    rcases hmem with ((hscope | htable) | hfields) | hsources
    · exact eq_valueList_of_mem_inSection (ValueFacet.eq_sectionList _) hscope
    · exact eq_valueList_of_mem_inSection (ValueFacet.eq_sectionList _) htable
    · exact eq_valueList_of_mem_inSection (FieldFacet.eq_sectionList _) hfields
    · obtain ⟨rfl, rfl⟩ := Prod.mk.inj hsources
      simp [DatasetFilter.ofMembers, Json.under?]
  | ofFlows hread hmem =>
    obtain rfl := FlowFilter.eq_ofMembers hread
    simp only [FlowFilter.facets, List.mem_append] at hmem
    rcases hmem with (happCode | hflow) | hjob
    · exact eq_valueList_of_mem_inSection (ValueFacet.eq_sectionList _) happCode
    · exact eq_valueList_of_mem_inSection (ValueFacet.eq_sectionList _) hflow
    · exact eq_valueList_of_mem_inSection (ValueFacet.eq_sectionList _) hjob

/-! ## Lists as ordered sets -/

/-- A text is read as different items, which hold no comma and have no white space at their ends,
in the order in which they first occur in it; the texts that are read as themselves alone are these
items. A text after a comma adds its items that are new. Every facet is a list so read: from a
scalar, from its text, and from an array, all that its scalars yield alone, in order of first
occurrence. Commas and white space around any of the texts that are joined, or around those of an
array, change nothing. -/
theorem lists_are_ordered_sets :
    (∀ s, (Text.splitList s).Nodup ∧ (∀ item ∈ Text.splitList s, Text.IsTidy item) ∧
      Text.FirstOccurrences (Text.commaItems s) (Text.splitList s) ∧
      (Text.splitList s = [s] ↔ Text.IsTidy s)) ∧
    (∀ a b, Text.splitList (a ++ "," ++ b) =
      Text.splitList a ++ (Text.splitList b).filter (· ∉ Text.splitList a)) ∧
    (∀ texts texts', List.Forall₂ Text.Surrounds texts texts' →
      Text.splitList (",".intercalate texts') = Text.splitList (",".intercalate texts)) ∧
    (∀ options path set, GivesFacet options path set →
      set = Json.valueList (options.under? path)) ∧
    (∀ v s, v.scalarText? = some s → Json.valueList (some v) = Text.splitList s) ∧
    (∀ items, Text.FirstOccurrences
      ((items.filter Json.isScalarValue).flatMap fun item => Json.valueList (some item))
      (Json.valueList (some (.array items)))) ∧
    ∀ items items', List.Forall₂ Text.Surrounds (items.filterMap Json.scalarText?)
        (items'.filterMap Json.scalarText?) →
      Json.valueList (some (.array items')) = Json.valueList (some (.array items)) := by
  refine ⟨fun s => ⟨?_, ?_, ?_, Text.splitList_eq_singleton_iff s⟩, Text.splitList_append,
    fun _ _ => Text.splitList_of_surrounds, fun _ _ _ => GivesFacet.eq_valueList,
    fun _ _ => Json.valueList_of_scalarText?, Json.firstOccurrences_array,
    fun items items' h => ?_⟩
  · exact (Text.isItemList_splitList s).nodup
  · intro item hitem
    exact (Text.isItem_iff_isTidy item).mp ((Text.isItemList_splitList s).isItem item hitem)
  · exact Text.firstOccurrences_appendNew (Text.commaItems s)
  · rw [Json.valueList_array, Json.valueList_array, Text.splitList_of_surrounds h]

/-- An array with items of every kind, and the same texts among more commas and white space. -/
theorem lists_are_ordered_sets_mixed :
    let items := [Json.string " a,b", .null, .number (.int 7), .array [.string "c"], .bool true,
      .string "b,,7,x "]
    let surrounded := [Json.string ",\u3000 a,b,", .string " 7", .bool true, .string "b,,7,x , "]
    let options := Json.object [("appcode", .object [("in", .array items)])]
    let set := ["a", "b", "7", "true", "x"]
    GivesFacet options ["appcode", "in"] set ∧
    Json.valueList (options.under? ["appcode", "in"]) = set ∧
    Json.valueList (some (.number (.int 7))) = ["7"] ∧
    Json.valueList (some (.array surrounded)) = set ∧
    Text.splitList (",".intercalate [",\u3000 a,b,", " 7"]) = ["a", "b", "7"] ∧
    Text.IsTidy "x" := by
  intro items surrounded options set
  obtain ⟨hread, -, hjoined, hfacets, hscalars, -, harrays⟩ := lists_are_ordered_sets
  have hfacet : GivesFacet options ["appcode", "in"] set :=
    .ofFlows (f := { appCode := ⟨set, []⟩ }) (by decide) (by decide)
  have hset := hfacets _ _ _ hfacet
  have hcomma : ',' = ',' ∨ Text.isWhiteSpace ',' = true := .inl rfl
  have hspace : ' ' = ',' ∨ Text.isWhiteSpace ' ' = true := .inr rfl
  have hwide : '\u3000' = ',' ∨ Text.isWhiteSpace '\u3000' = true := .inr rfl
  have hfirst : Text.Surrounds " a,b" ",\u3000 a,b," := ⟨",\u3000", ",", by decide,
    List.forall_mem_cons.mpr ⟨hcomma, List.forall_mem_cons.mpr
      ⟨hwide, List.forall_mem_singleton.mpr hcomma⟩⟩⟩
  have hnumber : Text.Surrounds "7" " 7" :=
    ⟨" ", "", by decide, List.forall_mem_singleton.mpr hspace⟩
  have htrue : Text.Surrounds "true" "true" := ⟨"", "", by decide, List.forall_mem_nil _⟩
  have hlast : Text.Surrounds "b,,7,x " "b,,7,x , " := ⟨"", ", ", by decide,
    List.forall_mem_cons.mpr ⟨hcomma, List.forall_mem_singleton.mpr hspace⟩⟩
  refine ⟨hfacet, hset.symm, ?_, ?_, ?_, ?_⟩
  · rw [hscalars _ "7" rfl]
    decide
  · have harray := harrays items surrounded
      (.cons hfirst (.cons hnumber (.cons htrue (.cons hlast .nil))))
    exact harray.trans hset.symm
  · rw [hjoined [" a,b", "7"] _ (.cons hfirst (.cons hnumber .nil))]
    decide
  · exact (hread "x").2.1 "x" (by decide)

end FacetSearch
