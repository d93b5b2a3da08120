import FacetSearch.Proofs.Catalog.Keys
import FacetSearch.Proofs.Query.Narrowing
import FacetSearch.Proofs.Sql.Sorting

/-!
# Pages of a search

The queries of a search sort their rows by a key, so that a row has the same place in every run.
The pages of one size then follow each other without a gap and without a row in common, as many
as the total says.
-/

namespace FacetSearch

section Pages

variable {count size p : Int}

/-- A page is among all pages just when there is a row to begin it with. -/
lemma le_totalPages_iff (hcount : 0 ≤ count) (hsize : 1 ≤ size) (hp : 1 ≤ p) :
    p ≤ totalPages count size ↔ (p - 1) * size < count := by
  unfold totalPages
  by_cases hempty : count ≤ 0
  · have hbefore : 0 ≤ (p - 1) * size := Int.mul_nonneg (by omega) (by omega)
    rw [if_pos (.inl hempty)]
    omega
  · have hproduct : (p - 1) * size = p * size - size := by
      rw [Int.sub_mul, Int.one_mul]
    rw [if_neg (by omega), Int.le_ediv_iff_mul_le (by omega), hproduct]
    omega

lemma totalPages_nonneg (count : Int) (hsize : 1 ≤ size) : 0 ≤ totalPages count size := by
  unfold totalPages
  split
  · exact le_refl 0
  · exact Int.ediv_nonneg (by omega) (by omega)

lemma clamp_of_one_le (hp : 1 ≤ p) (hsize : 1 ≤ size) : PageWindow.clamp p size = ⟨p, size⟩ := by
  rw [PageWindow.clamp, max_eq_left hp, max_eq_left hsize]

/-- The offset of a page that begins with a row is not cut off. -/
lemma offset_of_lt (h : (p - 1) * size < count) (hbound : count ≤ maxInt64) :
    PageWindow.offset ⟨p, size⟩ = (p - 1) * size :=
  min_eq_left (h.le.trans hbound)

lemma le_offset (h : count ≤ (p - 1) * size) (hbound : count ≤ maxInt64) :
    count ≤ PageWindow.offset ⟨p, size⟩ :=
  le_min h hbound

/-- Windows of one width that follow each other make up the beginning of a list. -/
lemma flatMap_windows {α : Type} (as : List α) (width m : Nat) :
    ((List.range m).flatMap fun i => (as.drop (i * width)).take width) = as.take (m * width) := by
  induction m with
  | zero => simp
  | succ m ih =>
    rw [List.range_succ, List.flatMap_append, ih, List.flatMap_singleton, Nat.succ_mul,
      List.take_add]

/-- The members of a list in a window. -/
def PageWindow.members {α : Type} (w : PageWindow) (as : List α) : List α :=
  (as.drop w.offset.toNat).take w.size.toNat

section Members

variable {α : Type} {as : List α}

lemma length_members (hsize : 1 ≤ size) (hp : 1 ≤ p) (hbound : as.length ≤ maxInt64)
    (hbegins : (p - 1) * size < as.length) :
    ((PageWindow.members ⟨p, size⟩ as).length : Int) =
      min size (as.length - (p - 1) * size) := by
  have hstart : 0 ≤ (p - 1) * size := Int.mul_nonneg (by omega) (by omega)
  simp only [PageWindow.members, List.length_take, List.length_drop, offset_of_lt hbegins hbound]
  omega

/-- All pages but the last are full. -/
lemma length_members_of_lt (hsize : 1 ≤ size) (hp : 1 ≤ p) (hbound : as.length ≤ maxInt64)
    (hlt : p < totalPages as.length size) :
    ((PageWindow.members ⟨p, size⟩ as).length : Int) = size := by
  have hcount : (0 : Int) ≤ as.length := by omega
  have hbegins := (le_totalPages_iff hcount hsize hp).mp hlt.le
  have hnext := (le_totalPages_iff hcount hsize (by omega : 1 ≤ p + 1)).mp (by omega)
  have hstep : (p + 1 - 1) * size = (p - 1) * size + size := by
    rw [Int.add_sub_cancel, Int.sub_mul, Int.one_mul, Int.sub_add_cancel]
  rw [length_members hsize hp hbound hbegins]
  omega

lemma length_members_of_le (hsize : 1 ≤ size) (hp : 1 ≤ p) (hbound : as.length ≤ maxInt64)
    (hle : p ≤ totalPages as.length size) :
    1 ≤ (PageWindow.members ⟨p, size⟩ as).length ∧
      ((PageWindow.members ⟨p, size⟩ as).length : Int) ≤ size := by
  have hcount : (0 : Int) ≤ as.length := by omega
  have hbegins := (le_totalPages_iff hcount hsize hp).mp hle
  have hlength := length_members hsize hp hbound hbegins
  omega

lemma members_of_totalPages_lt (hsize : 1 ≤ size) (hbound : as.length ≤ maxInt64)
    (hlt : totalPages as.length size < p) : PageWindow.members ⟨p, size⟩ as = [] := by
  have hcount : (0 : Int) ≤ as.length := by omega
  have hnonneg := totalPages_nonneg (as.length : Int) hsize
  have hpast : (as.length : Int) ≤ (p - 1) * size := by
    rw [← not_lt, ← le_totalPages_iff hcount hsize (by omega), not_le]
    exact hlt
  have hoffset := le_offset hpast hbound
  rw [PageWindow.members, List.drop_eq_nil_of_le (by omega), List.take_nil]

/-- All pages together are the whole list. -/
lemma flatMap_members (hsize : 1 ≤ size) (hbound : as.length ≤ maxInt64) :
    ((List.range (totalPages as.length size).toNat).flatMap fun i : Nat =>
      PageWindow.members ⟨i + 1, size⟩ as) = as := by
  have hcount : (0 : Int) ≤ as.length := by omega
  have hnonneg := totalPages_nonneg (as.length : Int) hsize
  have hpage : ∀ i ∈ List.range (totalPages as.length size).toNat,
      PageWindow.members ⟨i + 1, size⟩ as = (as.drop (i * size.toNat)).take size.toNat := by
    intro i hi
    rw [List.mem_range] at hi
    have hbegins := (le_totalPages_iff hcount hsize (by omega : 1 ≤ (i : Int) + 1)).mp (by omega)
    rw [PageWindow.members, offset_of_lt hbegins hbound, Int.add_sub_cancel,
      Int.toNat_mul (by omega) (by omega), Int.toNat_natCast]
  have hall : as.length ≤ (totalPages as.length size).toNat * size.toNat := by
    have hpast : ¬ totalPages as.length size + 1 ≤ totalPages as.length size := by omega
    rw [le_totalPages_iff hcount hsize (by omega), Int.add_sub_cancel, not_lt] at hpast
    rw [← Int.toNat_mul hnonneg (by omega)]
    omega
  rw [List.flatMap_congr hpage, flatMap_windows, List.take_of_length_le hall]

end Members

end Pages

namespace Query

section Sorted

variable {rules : TextRules} {s : Snapshot} {q : Query}

/-- The columns of a key are among those that a query sorts by. -/
def SortsByKey (q : Query) : Prop :=
  ∀ s : Snapshot, ∃ columns, Keyed (s.relation q.relation) columns ∧
    ∀ column ∈ columns, .column column ∈ q.order

lemma exists_sorted (rules : TextRules) (s : Snapshot) (q : Query) :
    ∃ sorted : List Tuple, sorted.Perm (q.rows rules s) ∧ sorted.Pairwise (q.NotAfter rules s) := by
  let le (t u : Tuple) : Bool := cellsNotAfter rules (q.sortCells rules s t) (q.sortCells rules s u)
  refine ⟨(q.rows rules s).mergeSort le, List.mergeSort_perm _ le, ?_⟩
  refine List.pairwise_mergeSort (fun t u v => ?_) (fun t u => ?_) _
  · exact cellsNotAfter_trans
  · rw [Bool.or_eq_true]
    exact cellsNotAfter_total rules _ _

lemma SortsByKey.sorted_unique (h : q.SortsByKey) {sorted sorted' : List Tuple}
    (hperm : sorted.Perm (q.rows rules s)) (hperm' : sorted'.Perm (q.rows rules s))
    (hsorted : sorted.Pairwise (q.NotAfter rules s))
    (hsorted' : sorted'.Pairwise (q.NotAfter rules s)) : sorted = sorted' := by
  obtain ⟨columns, hkeyed, horder⟩ := h s
  refine List.Perm.eq_of_pairwise (fun t u ht hu htu hut => ?_) hsorted hsorted'
    (hperm.trans hperm'.symm)
  have htrow : t ∈ s.relation q.relation := (mem_rows.mp (hperm.subset ht)).1
  have hurow : u ∈ s.relation q.relation := (mem_rows.mp (hperm'.subset hu)).1
  have hlevel := Order.level_of_notAfter htu hut
  exact hkeyed.eq_of_level htrow hurow fun column hcolumn => hlevel column (horder column hcolumn)

lemma SortsByKey.nodup_rows (h : q.SortsByKey) : (q.rows rules s).Nodup := by
  obtain ⟨columns, hkeyed, -⟩ := h s
  exact hkeyed.nodup.filter _

end Sorted

/-- The queries that a search runs for its windows. -/
inductive IsSearch : (PageWindow → Query) → Prop where
  | structured {f : DatasetFilter} {r : Ranking} {q : PageWindow → Query}
      (h : ∀ w, f.plan w r = .structured (q w)) : IsSearch q
  | freeText {f : DatasetFilter} {r : Ranking} {q : PageWindow → Query}
      (h : ∀ w, f.plan w r = .freeText (q w)) : IsSearch q
  /-- The follow-up of a narrowed search, which may read its candidates in another order for each
  window. -/
  | followUp {f : DatasetFilter} {r : Ranking} {candidates : PageWindow → Query}
      {followUp : PageWindow → FollowUp} {ids : PageWindow → List Int}
      (h : ∀ w, f.plan w r = .narrowed (candidates w) (followUp w))
      (hids : ∀ w w', (ids w).Perm (ids w')) : IsSearch fun w => (followUp w).query (ids w)
  | flows (f : FlowFilter) : IsSearch f.query

section Search

lemma sortsByKey_of_datasets {q : Query} (hrelation : q.relation = datasets.relation)
    (horder : .column "d.id" ∈ q.order) : q.SortsByKey := by
  intro s
  refine ⟨["d.id"], ?_, fun column hcolumn => ?_⟩
  · rw [hrelation]
    exact s.keyed_datasets
  · rw [List.mem_singleton.mp hcolumn]
    exact horder

lemma id_mem_datasetOrder (r : Ranking) (terms : List String) :
    .column "d.id" ∈ r.datasetOrder terms :=
  List.mem_append_right _ (List.mem_cons_of_mem _ (List.mem_cons_self ..))

lemma sortsByKey_of_flows (f : FlowFilter) (w : PageWindow) : (f.query w).SortsByKey := by
  intro s
  rw [FlowFilter.query_eq]
  by_cases hjobs : f.searchesJobs = true
  · refine ⟨["f.app_id", "j.job_id"], ?_, ?_⟩
    · simp only [FlowFilter.baseQuery, if_pos hjobs]
      exact s.keyed_jobRows
    · simp [FlowFilter.order, hjobs, Order.columns]
  · refine ⟨["f.app_id", "f.flow_id"], ?_, ?_⟩
    · simp only [FlowFilter.baseQuery, if_neg hjobs]
      exact s.keyed_flowRows
    · simp [FlowFilter.order, hjobs, Order.columns]

/-- The queries of a search sort the same rows in the same way, and by a key. -/
lemma IsSearch.exists_base {q : PageWindow → Query} (h : IsSearch q) :
    ∃ base : Query, base.SortsByKey ∧ ∀ w rules s, (q w).window = some w ∧
      (q w).rows rules s = base.rows rules s ∧
      (q w).sortCells rules s = base.sortCells rules s := by
  cases h with
  | @structured f r q h =>
    let base := f.structuredQuery.orderBy (r.datasetOrder f.table.wanted)
    have hrelation : base.relation = datasets.relation := by
      simp only [base, DatasetFilter.structuredQuery_eq, orderBy]
    refine ⟨base, sortsByKey_of_datasets hrelation (id_mem_datasetOrder r _), ?_⟩
    intro w rules s
    rw [(DatasetFilter.eq_of_plan_structured (h w)).2]
    exact ⟨rfl, rfl, rfl⟩
  | @freeText f r q h =>
    obtain ⟨-, text, hcomments, -⟩ := DatasetFilter.eq_of_plan_freeText (h ⟨1, 1⟩)
    refine ⟨DatasetFilter.freeTextQuery text ⟨1, 1⟩,
      sortsByKey_of_datasets rfl (List.mem_cons_of_mem _ (List.mem_cons_self ..)), ?_⟩
    intro w rules s
    obtain ⟨-, text', hcomments', hq⟩ := DatasetFilter.eq_of_plan_freeText (h w)
    obtain rfl : text = text' := Option.some.inj (hcomments.symm.trans hcomments')
    rw [hq]
    exact ⟨rfl, rfl, rfl⟩
  | @followUp f r candidates followUp ids h hids =>
    obtain ⟨-, -, text, hcomments, -⟩ := DatasetFilter.eq_of_plan_narrowed (h ⟨1, 1⟩)
    let base := FollowUp.query ⟨text, r.datasetOrder f.table.wanted, ⟨1, 1⟩⟩ (ids ⟨1, 1⟩)
    refine ⟨base, sortsByKey_of_datasets rfl (id_mem_datasetOrder r _), ?_⟩
    intro w rules s
    obtain ⟨-, -, text', hcomments', hfollowUp⟩ := DatasetFilter.eq_of_plan_narrowed (h w)
    obtain rfl : text = text' := Option.some.inj (hcomments.symm.trans hcomments')
    simp only [hfollowUp]
    exact ⟨rfl, FollowUp.rows_query_perm rfl (hids w ⟨1, 1⟩), rfl⟩
  | flows f =>
    refine ⟨f.query ⟨1, 1⟩, sortsByKey_of_flows f ⟨1, 1⟩, ?_⟩
    intro w rules s
    exact ⟨rfl, rfl, rfl⟩

/-- There is one sorted result, and every run gives the window it is asked for of that result. -/
lemma IsSearch.exists_result {q : PageWindow → Query} (h : IsSearch q) (rules : TextRules)
    (s : Snapshot) :
    ∃ result : List Tuple, result.Nodup ∧ (∀ w, result.Perm ((q w).rows rules s)) ∧
      ∀ w out, (q w).Gives rules s out → out = w.members result := by
  obtain ⟨base, hkey, hbase⟩ := h.exists_base
  obtain ⟨result, hperm, hsorted⟩ := exists_sorted rules s base
  refine ⟨result, hperm.nodup_iff.mpr hkey.nodup_rows, fun w => ?_, fun w out hgives => ?_⟩
  · rw [(hbase w rules s).2.1]
    exact hperm
  · obtain ⟨hwindow, hrows, hcells⟩ := hbase w rules s
    obtain ⟨sorted, hperm', hsorted', rfl⟩ := hgives
    have hnotAfter : (q w).NotAfter rules s = base.NotAfter rules s := by
      funext t u
      rw [NotAfter, NotAfter, hcells]
    rw [hrows] at hperm'
    rw [hnotAfter] at hsorted'
    rw [cut_some hwindow, hkey.sorted_unique hperm' hperm hsorted' hsorted, PageWindow.members]

end Search

/-- The pages of one size, each from its own run in which rows on a level may come in any order,
give one after the other the same list of all rows that fulfil the conditions, each once. All
pages but the last are full, the last one is not empty, and there is nothing on later pages. -/
theorem IsSearch.pages_partition {q : PageWindow → Query} (h : IsSearch q) (rules : TextRules)
    (s : Snapshot) {size : Int} (hsize : 1 ≤ size)
    (hbound : (((q (.clamp 1 size)).rows rules s).length : Int) + size ≤ maxInt64) :
    ∃ result : List Tuple, result.Nodup ∧ (∀ w, result.Perm ((q w).rows rules s)) ∧
      ∀ runs : Int → List Tuple,
        (∀ p, 1 ≤ p → (q (.clamp p size)).Gives rules s (runs p)) →
        ((List.range (totalPages result.length size).toNat).flatMap fun i : Nat =>
          runs (i + 1)) = result ∧
        (∀ p, 1 ≤ p → p < totalPages result.length size → (runs p).length = size) ∧
        (∀ p, 1 ≤ p → p = totalPages result.length size →
          1 ≤ (runs p).length ∧ (runs p).length ≤ size) ∧
        ∀ p, totalPages result.length size < p → runs p = [] := by
  obtain ⟨result, hnodup, hperm, hwindow⟩ := h.exists_result rules s
  refine ⟨result, hnodup, hperm, fun runs hruns => ?_⟩
  have hmax : (result.length : Int) ≤ maxInt64 := by
    rw [(hperm (.clamp 1 size)).length_eq]
    omega
  have hrun (p : Int) (hp : 1 ≤ p) : runs p = PageWindow.members ⟨p, size⟩ result := by
    have hgives := hruns p hp
    rw [clamp_of_one_le hp hsize] at hgives
    exact hwindow ⟨p, size⟩ (runs p) hgives
  refine ⟨?_, fun p hp hlt => ?_, fun p hp hlast => ?_, fun p hlt => ?_⟩
  · have hpage (i : Nat) : runs (i + 1) = PageWindow.members ⟨i + 1, size⟩ result :=
      hrun _ (by omega)
    simp only [hpage]
    exact flatMap_members hsize hmax
  · rw [hrun p hp]
    exact length_members_of_lt hsize hp hmax hlt
  · rw [hrun p hp]
    exact length_members_of_le hsize hp hmax hlast.le
  · have hp : 1 ≤ p := by
      have hnonneg := totalPages_nonneg (result.length : Int) hsize
      omega
    rw [hrun p hp]
    exact members_of_totalPages_lt hsize hmax hlt

/-- Three flows on pages of two. -/
theorem IsSearch.pages_partition_flows :
    let a : ApplicationRecord := ⟨1, "ETL"⟩
    let flow (id : Int) : FlowRecord := ⟨1, id, "load", none, none⟩
    let s : Snapshot := ⟨[], [], [], [], [], [a], [flow 3, flow 1, flow 2], [], by decide,
      by decide, by decide, by decide⟩
    let q : PageWindow → Query := FlowFilter.query {}
    let runs (p : Int) : List Tuple :=
      (q (.clamp p 2)).cut [(flow 1).tuple ++ a.tuple, (flow 2).tuple ++ a.tuple,
        (flow 3).tuple ++ a.tuple]
    (1 : Int) ≤ 2 ∧ (((q (.clamp 1 2)).rows .ascii s).length : Int) + 2 ≤ maxInt64 ∧
      (∀ p, (q (.clamp p 2)).Gives .ascii s (runs p)) ∧
      ∃ result : List Tuple, result.Perm ((q (.clamp 1 2)).rows .ascii s) ∧
        runs 1 ++ runs 2 = result ∧ (runs 1).length = 2 ∧ runs 3 = [] := by
  intro a flow s q runs
  have hbound : (((q (.clamp 1 2)).rows .ascii s).length : Int) + 2 ≤ maxInt64 := by decide
  have hsorted : [(flow 1).tuple ++ a.tuple, (flow 2).tuple ++ a.tuple,
      (flow 3).tuple ++ a.tuple].Pairwise ((q ⟨1, 2⟩).NotAfter .ascii s) := by
    unfold NotAfter
    decide
  have hgives (p : Int) : (q (.clamp p 2)).Gives .ascii s (runs p) := by
    refine ⟨_, ?_, ?_, rfl⟩
    · exact List.isPerm_iff.mp rfl
    · exact hsorted
  obtain ⟨result, -, hperm, hpages⟩ :=
    (IsSearch.flows {}).pages_partition .ascii s (by decide : (1 : Int) ≤ 2) hbound
  have hlength : result.length = 3 := (hperm (.clamp 1 2)).length_eq
  obtain ⟨hall, hfull, -, hnone⟩ := hpages runs fun p _ => hgives p
  rw [hlength] at hall hfull hnone
  refine ⟨by decide, hbound, hgives, result, hperm _, hall, ?_, hnone 3 (by decide)⟩
  have hfirst := hfull 1 (by decide) (by decide)
  omega

end Query

end FacetSearch
