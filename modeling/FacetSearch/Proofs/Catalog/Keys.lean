import FacetSearch.Proofs.Catalog.Snapshot

/-!
# Keys of relations

The primary keys of the tables make a few columns of each relation tell its rows apart.
-/

namespace FacetSearch

section Lists

variable {α β γ : Type}

lemma sublist_singleton_of_length_le_one {bs : List β} {b : β} (hlength : bs.length ≤ 1)
    (h : ∀ c ∈ bs, c = b) : bs.Sublist [b] := by
  match bs, hlength with
  | [], _ => exact List.nil_sublist _
  | [c], _ =>
    rw [h c (List.mem_singleton_self c)]

/-- Lists that are each at most one value, joined, are at most the list of these values. -/
lemma flatMap_sublist_map {f : α → List β} {g : α → β} {as : List α}
    (h : ∀ a ∈ as, (f a).Sublist [g a]) : (as.flatMap f).Sublist (as.map g) := by
  induction as with
  | nil => exact List.Sublist.refl _
  | cons a as ih =>
    rw [List.flatMap_cons, List.map_cons]
    have htail := ih fun b hb => h b (List.mem_cons_of_mem a hb)
    exact (h a (List.mem_cons_self ..)).append htail

/-- At most one member has a given key. -/
lemma length_filter_le_one [DecidableEq γ] {key : α → γ} {as : List α}
    (h : (as.map key).Nodup) (k : γ) : (as.filter fun a => key a = k).length ≤ 1 := by
  have hcount := List.nodup_iff_count_le_one.mp h k
  rw [List.count_eq_countP, List.countP_map, List.countP_eq_length_filter] at hcount
  have hsame : (fun b => b == k) ∘ key = fun a => decide (key a = k) := by
    funext a
    rfl
  rwa [hsame] at hcount

end Lists

/-- The columns hold numbers that tell the rows apart. -/
structure Keyed (rows : List Tuple) (columns : List String) : Prop where
  numbers : ∀ t ∈ rows, ∀ column ∈ columns, ∃ n, t.cell column = .bigint n
  distinct : (rows.map fun t => columns.map t.cell).Nodup

namespace Keyed

variable {rows : List Tuple} {columns : List String}

lemma nodup (h : Keyed rows columns) : rows.Nodup := List.Nodup.of_map _ h.distinct

/-- Rows that are level in every column of a key are the same. -/
lemma eq_of_level (h : Keyed rows columns) {rules : TextRules} {t u : Tuple} (ht : t ∈ rows)
    (hu : u ∈ rows)
    (hlevel : ∀ column ∈ columns, (t.cell column).notAfter rules (u.cell column) = true ∧
      (u.cell column).notAfter rules (t.cell column) = true) : t = u := by
  refine List.inj_on_of_nodup_map h.distinct ht hu (List.map_congr_left fun column hcolumn => ?_)
  obtain ⟨m, hm⟩ := h.numbers t ht column hcolumn
  obtain ⟨n, hn⟩ := h.numbers u hu column hcolumn
  have hcells := hlevel column hcolumn
  rw [hm, hn, Cell.notAfter, Cell.notAfter, decide_eq_true_eq, decide_eq_true_eq] at hcells
  rw [hm, hn, le_antisymm hcells.1 hcells.2]

end Keyed

namespace Snapshot

variable (s : Snapshot)

lemma keyed_datasets : Keyed (s.datasets.map DatasetRecord.tuple) ["d.id"] := by
  have hinjective : Function.Injective fun id : Int => [Cell.bigint id] := by
    intro m n h
    simpa using h
  have hkey := s.datasets_key.map hinjective
  rw [List.map_map] at hkey
  refine ⟨?_, ?_⟩
  · intro t ht column hcolumn
    obtain ⟨d, -, rfl⟩ := List.mem_map.mp ht
    rw [List.mem_singleton.mp hcolumn]
    exact ⟨d.id, rfl⟩
  · rw [List.map_map]
    exact hkey

/-- A flow has one application at most. -/
lemma applicationsOf_sublist (f : FlowRecord) {β : Type} {g : ApplicationRecord → β} {b : β}
    (h : ∀ a, g a = b) : ((s.applicationsOf f).map g).Sublist [b] := by
  refine sublist_singleton_of_length_le_one ?_ ?_
  · rw [List.length_map]
    exact length_filter_le_one s.applications_key f.appId
  · intro c hc
    obtain ⟨a, -, rfl⟩ := List.mem_map.mp hc
    exact h a

/-- A job has one flow at most, in the same application. -/
lemma flowsOf_sublist (j : JobRecord) {β : Type} {g : FlowRecord → β} {b : β}
    (h : ∀ f, f.appId = j.appId → g f = b) : ((s.flowsOf j).map g).Sublist [b] := by
  refine sublist_singleton_of_length_le_one ?_ ?_
  · have hlength := length_filter_le_one s.flows_key (j.appId, j.flowId)
    simp only [Prod.mk.injEq] at hlength
    rw [List.length_map]
    exact hlength
  · intro c hc
    obtain ⟨f, hf, rfl⟩ := List.mem_map.mp hc
    have hids : f.appId = j.appId ∧ f.flowId = j.flowId := by
      simpa using (List.mem_filter.mp hf).2
    exact h f hids.1

lemma keyed_flowRows : Keyed s.flowRows ["f.app_id", "f.flow_id"] := by
  have hinjective : Function.Injective fun k : Int × Int => [Cell.bigint k.1, Cell.bigint k.2] := by
    intro m n h
    simpa [Prod.ext_iff] using h
  have hkey := s.flows_key.map hinjective
  rw [List.map_map] at hkey
  refine ⟨?_, ?_⟩
  · intro t ht column hcolumn
    obtain ⟨f, -, hf⟩ := List.mem_flatMap.mp ht
    obtain ⟨a, -, rfl⟩ := List.mem_map.mp hf
    rw [List.mem_pair] at hcolumn
    rcases hcolumn with rfl | rfl
    · exact ⟨f.appId, rfl⟩
    · exact ⟨f.flowId, rfl⟩
  · rw [flowRows, List.map_flatMap]
    refine hkey.sublist (flatMap_sublist_map fun f _ => ?_)
    rw [List.map_map]
    exact s.applicationsOf_sublist f fun a => rfl

lemma keyed_jobRows : Keyed s.jobRows ["f.app_id", "j.job_id"] := by
  have hinjective : Function.Injective fun k : Int × Int => [Cell.bigint k.1, Cell.bigint k.2] := by
    intro m n h
    simpa [Prod.ext_iff] using h
  have hkey := s.jobs_key.map hinjective
  rw [List.map_map] at hkey
  refine ⟨?_, ?_⟩
  · intro t ht column hcolumn
    obtain ⟨j, -, hj⟩ := List.mem_flatMap.mp ht
    obtain ⟨f, -, hf⟩ := List.mem_flatMap.mp hj
    obtain ⟨a, -, rfl⟩ := List.mem_map.mp hf
    rw [List.mem_pair] at hcolumn
    rcases hcolumn with rfl | rfl
    · exact ⟨f.appId, rfl⟩
    · exact ⟨j.jobId, rfl⟩
  · rw [jobRows, List.map_flatMap]
    refine hkey.sublist (flatMap_sublist_map fun j _ => ?_)
    rw [List.map_flatMap]
    -- The application of a job is known through its flow.
    have hflows : ((s.flowsOf j).flatMap fun f => ((s.applicationsOf f).map fun a =>
        j.tuple ++ (f.tuple ++ a.tuple)).map fun t =>
          ["f.app_id", "j.job_id"].map t.cell).Sublist
        ((s.flowsOf j).map fun f => [.bigint f.appId, .bigint j.jobId]) := by
      refine flatMap_sublist_map fun f _ => ?_
      rw [List.map_map]
      exact s.applicationsOf_sublist f fun a => rfl
    refine hflows.trans (s.flowsOf_sublist j fun f hf => ?_)
    rw [hf]
    rfl

end Snapshot

end FacetSearch
