import FacetSearch.Proofs.Text.CommaList
import FacetSearch.Query.Plan

/-!
# Writing filters back

A filter is written back as options: every list that has items under its key, and the free text if
there is any. Options that write a filter back are read as this filter, whatever stands in them
where the filter has nothing.
-/

namespace FacetSearch

/-- The forms in which options give a list. -/
inductive ListForm where
  | array
  | joined
deriving DecidableEq, Repr

def ListForm.write (items : List String) : ListForm → Json
  | array => .strings items
  | joined => .string (",".intercalate items)

namespace Json

/-! ## What writes a list -/

/-- There is no value, or one of a type that gives neither a list nor a text. -/
def IsUnusable : Option Json → Prop
  | none | some null | some (object _) => True
  | _ => False

/-- The value gives the items in one of the forms. Without items it is nothing to be used. -/
def WritesList (items : List String) (v : Option Json) : Prop :=
  match items with
  | [] => IsUnusable v
  | item :: items => ∃ form : ListForm, v = some (form.write (item :: items))

/-- The value gives the text; if there is no text, it is nothing to be used. -/
def WritesText (text : Option String) (v : Option Json) : Prop :=
  match text with
  | none => IsUnusable v
  | some s => v = some (string s)

/-- The value is a section that gives the lists under their keys, and whatever else under other
keys. If all lists are empty, it may also be no section at all. -/
def WritesSection (lists : List (String × List String)) : Option Json → Prop
  | some (object members) => ∀ list ∈ lists, WritesList list.2 (members.lookup list.1)
  | _ => ∀ list ∈ lists, list.2 = []

lemma valueText?_of_isUnusable {v : Option Json} (h : IsUnusable v) : v.bind valueText? = none := by
  unfold IsUnusable at h
  split at h
  · rfl
  · rfl
  · rfl
  · cases h

lemma valueText?_write (items : List String) (form : ListForm) :
    (form.write items).valueText? = some (",".intercalate items) := by
  cases form with
  | array =>
    have htexts : (items.map string).filterMap scalarText? = items := by
      rw [List.filterMap_map]
      exact List.filterMap_some
    rw [ListForm.write, strings, valueText?, htexts]
  | joined => rfl

lemma valueList_of_writesList {items : List String} (hitems : Text.IsItemList items)
    {v : Option Json} (h : WritesList items v) : valueList v = items := by
  cases items with
  | nil => rw [valueList, valueText?_of_isUnusable h]
  | cons item items =>
    obtain ⟨form, rfl⟩ := h
    rw [valueList, Option.bind_some, valueText?_write]
    exact Text.splitList_join hitems

lemma isItemList_valueList (v : Option Json) : Text.IsItemList (valueList v) := by
  unfold valueList
  split
  · exact Text.isItemList_splitList _
  · exact ⟨List.forall_mem_nil _, List.nodup_nil⟩

/-- A section that gives a list is read as having this list. -/
lemma sectionList_of_writesSection {lists : List (String × List String)} {v : Option Json}
    (h : WritesSection lists v) {key : String} {items : List String} (hlist : (key, items) ∈ lists)
    (hitems : Text.IsItemList items) : sectionList v key = items := by
  unfold WritesSection at h
  split at h
  · rename_i members
    exact valueList_of_writesList hitems (h (key, items) hlist)
  · rename_i hsection
    have hempty : items = [] := h (key, items) hlist
    have hnone : v.bind (member? key) = none := by
      cases v with
      | none => rfl
      | some v =>
        cases v with
        | object members => exact absurd rfl (hsection members)
        | _ => rfl
    rw [sectionList, hnone, hempty]
    rfl

/-! ## Writing lists -/

/-- The fields that have a value, as members of an object. -/
def present (fields : List (String × Option Json)) : List (String × Json) :=
  fields.filterMap fun (key, v) => v.map (key, ·)

def listValue (form : ListForm) (items : List String) : Option Json :=
  if items = [] then none else some (form.write items)

/-- The section that gives those of the lists that have items, if there are any. -/
def sectionValue (form : String → ListForm) (lists : List (String × List String)) : Option Json :=
  if ∀ list ∈ lists, list.2 = [] then none
  else some (object (present (lists.map fun (key, items) => (key, listValue (form key) items))))

lemma lookup_present_of_notMem {fields : List (String × Option Json)} {key : String}
    (h : key ∉ fields.map Prod.fst) : (present fields).lookup key = none := by
  rw [List.lookup_eq_none_iff]
  intro member hmember
  obtain ⟨⟨k, v⟩, hfield, hv⟩ := List.mem_filterMap.mp hmember
  obtain ⟨value, -, rfl⟩ := Option.map_eq_some_iff.mp hv
  have hne : key ≠ k := by
    rintro rfl
    exact h (List.mem_map_of_mem hfield)
  simpa using hne

lemma lookup_present {fields : List (String × Option Json)} (hkeys : (fields.map Prod.fst).Nodup)
    {key : String} {v : Option Json} (h : (key, v) ∈ fields) : (present fields).lookup key = v := by
  induction fields with
  | nil => cases h
  | cons field fields ih =>
    obtain ⟨k, w⟩ := field
    rw [List.map_cons, List.nodup_cons] at hkeys
    have hrest : (present fields).lookup k = none := lookup_present_of_notMem hkeys.1
    have hcons : present ((k, w) :: fields) = (w.map (k, ·)).toList ++ present fields := by
      cases w <;> rfl
    rw [hcons, List.lookup_append]
    rcases List.mem_cons.mp h with heq | hmem
    · obtain ⟨rfl, rfl⟩ := Prod.mk.inj heq
      rw [hrest]
      cases v <;> simp
    · have hne : (key == k) = false := by
        rw [beq_eq_false_iff_ne]
        rintro rfl
        exact hkeys.1 (List.mem_map.mpr ⟨(key, v), hmem, rfl⟩)
      have hfirst : (w.map (k, ·)).toList.lookup key = none := by
        cases w <;> simp [List.lookup_cons, hne]
      rw [hfirst, ih hkeys.2 hmem, Option.none_or]

lemma writesList_listValue (form : ListForm) (items : List String) :
    WritesList items (listValue form items) := by
  cases items with
  | nil => trivial
  | cons item items => exact ⟨form, rfl⟩

lemma writesText_map (text : Option String) : WritesText text (text.map string) := by
  cases text with
  | none => trivial
  | some s => rfl

lemma writesSection_sectionValue (form : String → ListForm) {lists : List (String × List String)}
    (hkeys : (lists.map Prod.fst).Nodup) : WritesSection lists (sectionValue form lists) := by
  unfold sectionValue
  split
  · assumption
  · rintro ⟨key, items⟩ hlist
    have hfields : (lists.map fun (key, items) => (key, listValue (form key) items)).map Prod.fst =
        lists.map Prod.fst := by
      rw [List.map_map]
      rfl
    rw [lookup_present (by rwa [hfields]) (List.mem_map.mpr ⟨(key, items), hlist, rfl⟩)]
    exact writesList_listValue _ _

end Json

/-! ## Facets -/

namespace ValueFacet

def lists (f : ValueFacet) : List (String × List String) := [("in", f.wanted), ("not", f.unwanted)]

lemma nodup_keys (f : ValueFacet) : (f.lists.map Prod.fst).Nodup := by
  simp [lists]

lemma ofSection_of_writes {part v : Option Json} (h : Json.WritesSection (ofSection part).lists v) :
    ofSection v = ofSection part := by
  have hwanted : sectionList v "in" = sectionList part "in" :=
    Json.sectionList_of_writesSection h (by simp [lists, ofSection]) (Json.isItemList_valueList _)
  have hunwanted : sectionList v "not" = sectionList part "not" :=
    Json.sectionList_of_writesSection h (by simp [lists, ofSection]) (Json.isItemList_valueList _)
  rw [ofSection, ofSection, hwanted, hunwanted]

end ValueFacet

namespace FieldFacet

def lists (f : FieldFacet) : List (String × List String) :=
  [("any", f.anyOf), ("all", f.allOf), ("not", f.noneOf)]

lemma nodup_keys (f : FieldFacet) : (f.lists.map Prod.fst).Nodup := by
  simp [lists]

lemma ofSection_of_writes {part v : Option Json} (h : Json.WritesSection (ofSection part).lists v) :
    ofSection v = ofSection part := by
  have hany : sectionList v "any" = sectionList part "any" :=
    Json.sectionList_of_writesSection h (by simp [lists, ofSection]) (Json.isItemList_valueList _)
  have hall : sectionList v "all" = sectionList part "all" :=
    Json.sectionList_of_writesSection h (by simp [lists, ofSection]) (Json.isItemList_valueList _)
  have hnone : sectionList v "not" = sectionList part "not" :=
    Json.sectionList_of_writesSection h (by simp [lists, ofSection]) (Json.isItemList_valueList _)
  rw [ofSection, ofSection, hany, hall, hnone]

end FieldFacet

/-! ## Filters -/

namespace DatasetFilter

/-- The members give everything that the filter has, and nothing to be used where it has nothing.
There may be any other members. -/
structure WrittenIn (f : DatasetFilter) (members : List (String × Json)) : Prop where
  scope : Json.WritesSection f.scope.lists (members.lookup "scope")
  table : Json.WritesSection f.table.lists (members.lookup "table")
  fields : Json.WritesSection f.fields.lists (members.lookup "fields")
  sources : Json.WritesList f.sources (members.lookup "sources")
  comments : Json.WritesText f.comments (members.lookup "comments")

def fieldsOf (form : String → String → ListForm) (f : DatasetFilter) :
    List (String × Option Json) :=
  [("scope", Json.sectionValue (form "scope") f.scope.lists),
    ("table", Json.sectionValue (form "table") f.table.lists),
    ("fields", Json.sectionValue (form "fields") f.fields.lists),
    ("sources", Json.listValue (form "sources" "") f.sources),
    ("comments", f.comments.map .string)]

/-- The filter as members of options, each list in its own form. -/
def write (form : String → String → ListForm) (f : DatasetFilter) : List (String × Json) :=
  Json.present (f.fieldsOf form)

lemma freeText?_of_writes {part v : Option Json} (h : Json.WritesText (freeText? part) v) :
    freeText? v = freeText? part := by
  unfold Json.WritesText at h
  split at h
  · rename_i hnone
    rw [freeText?, Json.valueText?_of_isUnusable h, hnone]
    rfl
  · rename_i s hsome
    obtain ⟨htrimmed, hne⟩ := Option.filter_eq_some_iff.mp hsome
    obtain ⟨given, -, rfl⟩ := Option.map_eq_some_iff.mp htrimmed
    have htext : (v.bind Json.valueText?).map Text.trim = some (Text.trim given) := by
      rw [h]
      exact congrArg some (Text.trim_trim given)
    rw [freeText?, htext, hsome, Option.filter_eq_some_iff]
    exact ⟨rfl, hne⟩

lemma eq_ofMembers {options : Json} {f : DatasetFilter} (h : ofOptions? options = some f) :
    f = ofMembers options := by
  cases options with
  | object members => exact (Option.some.inj h).symm
  | _ => cases h

lemma ofOptions?_of_writtenIn {options : Json} {f : DatasetFilter}
    (hf : ofOptions? options = some f) {members : List (String × Json)} (h : f.WrittenIn members) :
    ofOptions? (.object members) = some f := by
  obtain rfl := eq_ofMembers hf
  have hscope := ValueFacet.ofSection_of_writes h.scope
  have htable := ValueFacet.ofSection_of_writes h.table
  have hfields := FieldFacet.ofSection_of_writes h.fields
  have hsources := Json.valueList_of_writesList (Json.isItemList_valueList _) h.sources
  have hcomments := freeText?_of_writes h.comments
  have hread : ofOptions? (.object members) =
      some ⟨.ofSection (members.lookup "scope"), .ofSection (members.lookup "table"),
        .ofSection (members.lookup "fields"), Json.valueList (members.lookup "sources"),
        freeText? (members.lookup "comments")⟩ := rfl
  rw [hread, hscope, htable, hfields, hsources, hcomments]
  rfl

lemma writtenIn_write (form : String → String → ListForm) (f : DatasetFilter) :
    f.WrittenIn (f.write form) := by
  have hlookup {key : String} {v : Option Json} (h : (key, v) ∈ f.fieldsOf form) :
      (f.write form).lookup key = v := Json.lookup_present (by simp [fieldsOf]) h
  have hscope : (f.write form).lookup "scope" = Json.sectionValue (form "scope") f.scope.lists :=
    hlookup (by simp [fieldsOf])
  have htable : (f.write form).lookup "table" = Json.sectionValue (form "table") f.table.lists :=
    hlookup (by simp [fieldsOf])
  have hfields : (f.write form).lookup "fields" =
      Json.sectionValue (form "fields") f.fields.lists := hlookup (by simp [fieldsOf])
  have hsources : (f.write form).lookup "sources" =
      Json.listValue (form "sources" "") f.sources := hlookup (by simp [fieldsOf])
  have hcomments : (f.write form).lookup "comments" = f.comments.map .string :=
    hlookup (by simp [fieldsOf])
  constructor
  · rw [hscope]
    exact Json.writesSection_sectionValue _ f.scope.nodup_keys
  · rw [htable]
    exact Json.writesSection_sectionValue _ f.table.nodup_keys
  · rw [hfields]
    exact Json.writesSection_sectionValue _ f.fields.nodup_keys
  · rw [hsources]
    exact Json.writesList_listValue _ _
  · rw [hcomments]
    exact Json.writesText_map _

end DatasetFilter

namespace FlowFilter

/-- The members give everything that the filter has, as for datasets. -/
structure WrittenIn (f : FlowFilter) (members : List (String × Json)) : Prop where
  appCode : Json.WritesSection f.appCode.lists (members.lookup "appcode")
  flow : Json.WritesSection f.flow.lists (members.lookup "flow")
  job : Json.WritesSection f.job.lists (members.lookup "job")

def fieldsOf (form : String → String → ListForm) (f : FlowFilter) :
    List (String × Option Json) :=
  [("appcode", Json.sectionValue (form "appcode") f.appCode.lists),
    ("flow", Json.sectionValue (form "flow") f.flow.lists),
    ("job", Json.sectionValue (form "job") f.job.lists)]

def write (form : String → String → ListForm) (f : FlowFilter) : List (String × Json) :=
  Json.present (f.fieldsOf form)

lemma eq_ofMembers {options : Json} {f : FlowFilter} (h : ofOptions? options = some f) :
    f = ofMembers options := by
  cases options with
  | object members => exact (Option.some.inj h).symm
  | _ => cases h

lemma ofOptions?_of_writtenIn {options : Json} {f : FlowFilter}
    (hf : ofOptions? options = some f) {members : List (String × Json)} (h : f.WrittenIn members) :
    ofOptions? (.object members) = some f := by
  obtain rfl := eq_ofMembers hf
  have happCode := ValueFacet.ofSection_of_writes h.appCode
  have hflow := ValueFacet.ofSection_of_writes h.flow
  have hjob := ValueFacet.ofSection_of_writes h.job
  have hread : ofOptions? (.object members) =
      some ⟨.ofSection (members.lookup "appcode"), .ofSection (members.lookup "flow"),
        .ofSection (members.lookup "job")⟩ := rfl
  rw [hread, happCode, hflow, hjob]
  rfl

lemma writtenIn_write (form : String → String → ListForm) (f : FlowFilter) :
    f.WrittenIn (f.write form) := by
  have hlookup {key : String} {v : Option Json} (h : (key, v) ∈ f.fieldsOf form) :
      (f.write form).lookup key = v := Json.lookup_present (by simp [fieldsOf]) h
  have happCode : (f.write form).lookup "appcode" =
      Json.sectionValue (form "appcode") f.appCode.lists := hlookup (by simp [fieldsOf])
  have hflow : (f.write form).lookup "flow" = Json.sectionValue (form "flow") f.flow.lists :=
    hlookup (by simp [fieldsOf])
  have hjob : (f.write form).lookup "job" = Json.sectionValue (form "job") f.job.lists :=
    hlookup (by simp [fieldsOf])
  constructor
  · rw [happCode]
    exact Json.writesSection_sectionValue _ f.appCode.nodup_keys
  · rw [hflow]
    exact Json.writesSection_sectionValue _ f.flow.nodup_keys
  · rw [hjob]
    exact Json.writesSection_sectionValue _ f.job.nodup_keys

end FlowFilter

/-- A filter read from options is read again from whatever writes it back: from its own members, each
list as an array or joined with commas, and from all other members that give the same lists and
text. There may be unknown keys beside these, and where the filter has no list or no text, values
and sections of types that give none. So searches with both options have the same plan. This holds
of filters for datasets, and of those for flows and jobs. -/
theorem filter_read_back (options : Json) :
    (∀ f, DatasetFilter.ofOptions? options = some f →
      (∀ form, f.WrittenIn (f.write form)) ∧
      ∀ members, f.WrittenIn members →
        DatasetFilter.ofOptions? (.object members) = some f ∧
        ∀ w ranking, (DatasetFilter.ofOptions? (.object members)).map (·.plan w ranking) =
          (DatasetFilter.ofOptions? options).map (·.plan w ranking)) ∧
    ∀ f, FlowFilter.ofOptions? options = some f →
      (∀ form, f.WrittenIn (f.write form)) ∧
      ∀ members, f.WrittenIn members →
        FlowFilter.ofOptions? (.object members) = some f ∧
        ∀ w, (FlowFilter.ofOptions? (.object members)).map (·.query w) =
          (FlowFilter.ofOptions? options).map (·.query w) := by
  constructor
  · intro f hf
    refine ⟨fun form => DatasetFilter.writtenIn_write form f, fun members h => ?_⟩
    have hread := DatasetFilter.ofOptions?_of_writtenIn hf h
    exact ⟨hread, fun w ranking => by rw [hread, hf]⟩
  · intro f hf
    refine ⟨fun form => FlowFilter.writtenIn_write form f, fun members h => ?_⟩
    have hread := FlowFilter.ofOptions?_of_writtenIn hf h
    exact ⟨hread, fun w => by rw [hread, hf]⟩

/-- Options whose lists are written back in both forms, beside unknown keys and values that give no
lists. -/
theorem filter_read_back_beside_others :
    let options := Json.object [("scope", .object [("in", .string " tracking, prod,,prod "),
      ("not", .number (.int 7))]), ("comments", .string "  revenue ")]
    let f : DatasetFilter :=
      { scope := ⟨["tracking", "prod"], ["7"]⟩, comments := some "revenue" }
    let members := [("page", Json.bool true),
      ("scope", .object [("not", .string "7"), ("any", .null),
        ("in", .strings ["tracking", "prod"])]),
      ("table", .string "none"), ("fields", .object [("any", .object []), ("all", .null)]),
      ("sources", .null), ("comments", .string "revenue")]
    DatasetFilter.ofOptions? options = some f ∧ f.WrittenIn members ∧
      DatasetFilter.ofOptions? (.object members) = some f := by
  intro options f members
  have hf : DatasetFilter.ofOptions? options = some f := by decide
  have hwritten : f.WrittenIn members := by
    constructor
    · exact List.forall_mem_cons.mpr ⟨⟨.array, rfl⟩, List.forall_mem_singleton.mpr ⟨.joined, rfl⟩⟩
    · exact List.forall_mem_cons.mpr ⟨rfl, List.forall_mem_singleton.mpr rfl⟩
    · exact List.forall_mem_cons.mpr ⟨trivial, List.forall_mem_cons.mpr
        ⟨trivial, List.forall_mem_singleton.mpr trivial⟩⟩
    · trivial
    · rfl
  exact ⟨hf, hwritten, (((filter_read_back options).1 f hf).2 members hwritten).1⟩

end FacetSearch
