import FacetSearch.Proofs.Sql.Meaning
import Mathlib.Data.List.Dedup
import Mathlib.Data.List.Perm.Subperm

/-!
# Snapshots of the catalog

The tables that a search reads, as they stand for one transaction, and the rows that the fixed
texts of queries stand for: relations, heads of sub-selects and lists of columns.
-/

namespace FacetSearch

structure DatasetRecord where
  id : Int
  name : String
  parentName : Option String
  source : Option String
  urn : String
  schema : Option String

structure FieldRecord where
  datasetId : Int
  name : String

structure CommentRecord where
  datasetId : Int
  text : String

structure FieldCommentRecord where
  id : Int
  comment : String

/-- A comment on a field of a dataset. -/
structure FieldCommentLink where
  commentId : Int
  datasetId : Int

structure ApplicationRecord where
  appId : Int
  appCode : String

structure FlowRecord where
  appId : Int
  flowId : Int
  name : String
  path : Option String
  group : Option String

structure JobRecord where
  appId : Int
  flowId : Int
  jobId : Int
  name : Option String
  path : Option String
  type : Option String

/-- The tables of the catalog with their primary keys. -/
structure Snapshot where
  datasets : List DatasetRecord
  fields : List FieldRecord
  comments : List CommentRecord
  fieldComments : List FieldCommentRecord
  fieldCommentLinks : List FieldCommentLink
  applications : List ApplicationRecord
  flows : List FlowRecord
  jobs : List JobRecord
  datasets_key : (datasets.map DatasetRecord.id).Nodup
  applications_key : (applications.map ApplicationRecord.appId).Nodup
  flows_key : (flows.map fun f => (f.appId, f.flowId)).Nodup
  jobs_key : (jobs.map fun j => (j.appId, j.jobId)).Nodup

/-- A text that may be missing. -/
def Cell.ofText? : Option String → Cell
  | none => null
  | some s => text s

def DatasetRecord.tuple (d : DatasetRecord) : Tuple :=
  [("d.id", .bigint d.id), ("d.name", .text d.name), ("d.parent_name", .ofText? d.parentName),
    ("d.source", .ofText? d.source), ("d.urn", .text d.urn), ("d.\"schema\"", .ofText? d.schema)]

def FieldRecord.tuple (f : FieldRecord) : Tuple :=
  [("f.dataset_id", .bigint f.datasetId), ("f.field_name", .text f.name)]

def CommentRecord.tuple (c : CommentRecord) : Tuple :=
  [("c.dataset_id", .bigint c.datasetId), ("c.text", .text c.text)]

def ApplicationRecord.tuple (a : ApplicationRecord) : Tuple :=
  [("a.app_id", .bigint a.appId), ("a.app_code", .text a.appCode)]

def FlowRecord.tuple (f : FlowRecord) : Tuple :=
  [("f.app_id", .bigint f.appId), ("f.flow_id", .bigint f.flowId), ("f.flow_name", .text f.name),
    ("f.flow_path", .ofText? f.path), ("f.flow_group", .ofText? f.group)]

def JobRecord.tuple (j : JobRecord) : Tuple :=
  [("j.app_id", .bigint j.appId), ("j.flow_id", .bigint j.flowId), ("j.job_id", .bigint j.jobId),
    ("j.job_name", .ofText? j.name), ("j.job_path", .ofText? j.path),
    ("j.job_type", .ofText? j.type)]

namespace Snapshot

variable (s : Snapshot)

/-- The names of the fields of a dataset. -/
def fieldNames (id : Int) : List String :=
  (s.fields.filter fun f => f.datasetId = id).map FieldRecord.name

/-- Comments on fields, with the datasets of the fields. -/
def fieldCommentRows : List (Cell × Tuple) :=
  s.fieldCommentLinks.flatMap fun link =>
    (s.fieldComments.filter fun c => c.id = link.commentId).map fun c =>
      (.bigint link.datasetId,
        [("dfc.comment_id", .bigint link.commentId), ("dfc.dataset_id", .bigint link.datasetId),
          ("fc.id", .bigint c.id), ("fc.comment", .text c.comment)])

/-- The application of a flow. -/
def applicationsOf (f : FlowRecord) : List ApplicationRecord :=
  s.applications.filter fun a => a.appId = f.appId

/-- The flow of a job. -/
def flowsOf (j : JobRecord) : List FlowRecord :=
  s.flows.filter fun f => f.appId = j.appId ∧ f.flowId = j.flowId

/-- Flows with their applications. -/
def flowRows : List Tuple :=
  s.flows.flatMap fun f => (s.applicationsOf f).map fun a => f.tuple ++ a.tuple

/-- Jobs with their flows and applications. -/
def jobRows : List Tuple :=
  s.jobs.flatMap fun j => (s.flowsOf j).flatMap fun f => (s.applicationsOf f).map fun a =>
    j.tuple ++ (f.tuple ++ a.tuple)

/-- The rows of the relation that a query names. -/
def relation (text : String) : List Tuple :=
  if text = "dict_dataset d" then s.datasets.map DatasetRecord.tuple
  else if text = "flow f JOIN cfg_application a ON a.app_id = f.app_id" then s.flowRows
  else if text = "flow_job j JOIN flow f ON f.app_id = j.app_id AND f.flow_id = j.flow_id " ++
    "JOIN cfg_application a ON a.app_id = f.app_id" then s.jobRows
  else []

/-- The rows that the head of a sub-select ranges over, where `allFields` is what the clause for
all fields has computed. -/
def heads (allFields : List Int) : Heads := fun text =>
  if text = "SELECT f.dataset_id FROM dict_field_detail f" then
    s.fields.map fun f => (.bigint f.datasetId, f.tuple)
  else if text = "SELECT c.dataset_id FROM comments c" then
    s.comments.map fun c => (.bigint c.datasetId, c.tuple)
  else if text = "SELECT dfc.dataset_id FROM dict_dataset_field_comment dfc " ++
    "JOIN field_comments fc ON fc.id = dfc.comment_id" then s.fieldCommentRows
  else if text = "SELECT dataset_id FROM all_fields" then
    allFields.map fun id => (.bigint id, [("dataset_id", .bigint id)])
  else []

/-- Fields joined with the numbered patterns that their names match: the dataset of the field,
and the number of the pattern. -/
def fieldHits (rules : TextRules) (patterns : List String) : List (Int × Nat) :=
  s.fields.flatMap fun f => ((patterns.zipIdx 1).filter fun p => rules.like p.1 f.name).map
    fun p => (f.datasetId, p.2)

/-- The numbers of the patterns that some field of a dataset matches. -/
def ordinals (rules : TextRules) (patterns : List String) (id : Int) : List Nat :=
  ((s.fieldHits rules patterns).filter fun hit => hit.1 = id).map Prod.snd

/-- The datasets, grouped from the joined fields, whose fields match `count` different
patterns. -/
def allFields (rules : TextRules) (patterns : List String) (count : Int) : List Int :=
  ((s.fieldHits rules patterns).map Prod.fst).dedup.filter fun id =>
    ((s.ordinals rules patterns id).dedup.length : Int) = count

lemma mem_fieldHits {rules : TextRules} {patterns : List String} {id : Int} {n : Nat} :
    (id, n) ∈ s.fieldHits rules patterns ↔
      ∃ f ∈ s.fields, f.datasetId = id ∧
        ∃ pattern, (pattern, n) ∈ patterns.zipIdx 1 ∧ rules.like pattern f.name = true := by
  simp only [fieldHits, List.mem_flatMap, List.mem_map, List.mem_filter, Prod.mk.injEq]
  constructor
  · rintro ⟨f, hf, ⟨pattern, m⟩, ⟨hm, hlike⟩, hid, rfl⟩
    exact ⟨f, hf, hid, pattern, hm, hlike⟩
  · rintro ⟨f, hf, hid, pattern, hm, hlike⟩
    exact ⟨f, hf, (pattern, n), ⟨hm, hlike⟩, hid, rfl⟩

lemma mem_ordinals {rules : TextRules} {patterns : List String} {id : Int} {n : Nat} :
    n ∈ s.ordinals rules patterns id ↔ (id, n) ∈ s.fieldHits rules patterns := by
  simp [ordinals]

/-- Distinct numbers from one to `k` are as many as `k` just when each of them is there. -/
lemma length_dedup_eq_iff {ns : List Nat} {k : Nat} (h : ∀ n ∈ ns, 1 ≤ n ∧ n ≤ k) :
    ns.dedup.length = k ↔ ∀ n, 1 ≤ n → n ≤ k → n ∈ ns := by
  have hsub : ns.dedup ⊆ List.range' 1 k := by
    intro n hn
    have hbounds := h n (List.mem_dedup.mp hn)
    rw [List.mem_range'_1]
    omega
  have hsubperm : ns.dedup.Subperm (List.range' 1 k) :=
    List.subperm_of_subset (List.nodup_dedup ns) hsub
  constructor
  · intro hlength n hn hnk
    have hperm : ns.dedup.Perm (List.range' 1 k) :=
      hsubperm.perm_of_length_le (by rw [hlength, List.length_range'])
    have hmem : n ∈ List.range' 1 k := by
      rw [List.mem_range'_1]
      omega
    exact List.mem_dedup.mp (hperm.mem_iff.mpr hmem)
  · intro hall
    have hback : (List.range' 1 k).Subperm ns.dedup := by
      refine List.subperm_of_subset List.nodup_range' ?_
      intro n hn
      rw [List.mem_range'_1] at hn
      exact List.mem_dedup.mpr (hall n hn.1 (by omega))
    have hle := hsubperm.length_le
    have hge := hback.length_le
    rw [List.length_range'] at hle hge
    omega

/-- A dataset matches as many different patterns as there are just when each pattern is matched
by one of its fields. -/
theorem mem_allFields {rules : TextRules} {patterns : List String} (hne : patterns ≠ [])
    {id : Int} :
    id ∈ s.allFields rules patterns patterns.length ↔
      ∀ pattern ∈ patterns, ∃ name ∈ s.fieldNames id, rules.like pattern name = true := by
  have hordinal (n : Nat) : n ∈ s.ordinals rules patterns id ↔
      ∃ name ∈ s.fieldNames id, ∃ pattern, (pattern, n) ∈ patterns.zipIdx 1 ∧
        rules.like pattern name = true := by
    rw [mem_ordinals, mem_fieldHits]
    constructor
    · rintro ⟨f, hf, hid, pattern, hn, hlike⟩
      have hname : f.name ∈ s.fieldNames id :=
        List.mem_map.mpr ⟨f, List.mem_filter.mpr ⟨hf, by simpa using hid⟩, rfl⟩
      exact ⟨f.name, hname, pattern, hn, hlike⟩
    · rintro ⟨name, hname, pattern, hn, hlike⟩
      obtain ⟨f, hf, rfl⟩ := List.mem_map.mp hname
      obtain ⟨hf, hid⟩ := List.mem_filter.mp hf
      exact ⟨f, hf, by simpa using hid, pattern, hn, hlike⟩
  have hbounds : ∀ n ∈ s.ordinals rules patterns id, 1 ≤ n ∧ n ≤ patterns.length := by
    intro n hn
    obtain ⟨name, -, pattern, hn, -⟩ := (hordinal n).mp hn
    have hle := List.le_snd_of_mem_zipIdx hn
    have hlt := List.snd_lt_add_of_mem_zipIdx hn
    omega
  have hcount := length_dedup_eq_iff hbounds
  have hall : (∀ n, 1 ≤ n → n ≤ patterns.length → n ∈ s.ordinals rules patterns id) ↔
      ∀ pattern ∈ patterns, ∃ name ∈ s.fieldNames id, rules.like pattern name = true := by
    constructor
    · intro h pattern hpattern
      obtain ⟨i, hi, rfl⟩ := List.mem_iff_getElem.mp hpattern
      obtain ⟨name, hname, pattern', hmem, hlike⟩ := (hordinal (i + 1)).mp (h (i + 1) (by omega) hi)
      obtain ⟨-, -, hget⟩ := List.mem_zipIdx hmem
      have hsame : pattern' = patterns[i] := by simpa using hget
      exact ⟨name, hname, hsame ▸ hlike⟩
    · intro h n hn hnk
      have hlt : n - 1 < patterns.length := by omega
      obtain ⟨name, hname, hlike⟩ := h patterns[n - 1] (List.getElem_mem hlt)
      refine (hordinal n).mpr ⟨name, hname, _, ?_, hlike⟩
      rw [List.mem_zipIdx_iff_le_and_getElem?_sub]
      exact ⟨hn, List.getElem?_eq_getElem _⟩
  simp only [allFields, List.mem_filter, List.mem_dedup, decide_eq_true_eq, Int.natCast_inj]
  rw [hcount, hall]
  refine ⟨fun h => h.2, fun h => ⟨?_, h⟩⟩
  have hone : 1 ≤ patterns.length := by
    have hpos := List.length_pos_of_ne_nil hne
    omega
  have hfirst := hall.mpr h 1 (le_refl 1) hone
  exact List.mem_map.mpr ⟨(id, 1), (s.mem_ordinals).mp hfirst, rfl⟩

end Snapshot

end FacetSearch
