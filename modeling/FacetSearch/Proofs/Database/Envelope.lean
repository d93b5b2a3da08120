import FacetSearch.Database.Script
import FacetSearch.Proofs.Database.Reply
import FacetSearch.Proofs.Query.Paging

/-!
# The envelope of a page

A page tells of its window and of what the database replied, and of nothing else. It is so for all
plans and for both domains, and also where nothing has been read.
-/

namespace FacetSearch

variable {α : Type}

section TotalPages

variable {count size n : Int}

lemma totalPages_eq_zero_iff (hcount : 0 ≤ count) (hsize : 1 ≤ size) :
    totalPages count size = 0 ↔ count = 0 := by
  have hfirst := le_totalPages_iff hcount hsize (le_refl 1)
  have hnonneg := totalPages_nonneg count hsize
  rw [Int.sub_self, Int.zero_mul] at hfirst
  constructor
  · intro hzero
    by_contra hne
    have hone := hfirst.mpr (by omega)
    omega
  · intro hzero
    by_contra hne
    have hone := hfirst.mp (by omega)
    omega

/-- The last page is the one that the last row is on. -/
lemma eq_totalPages_iff (hcount : 1 ≤ count) (hsize : 1 ≤ size) :
    n = totalPages count size ↔ (n - 1) * size < count ∧ count ≤ n * size := by
  have hpage : ∀ p, 1 ≤ p → (p ≤ totalPages count size ↔ (p - 1) * size < count) :=
    fun p hp => le_totalPages_iff (by omega) hsize hp
  have hfirst : 1 ≤ totalPages count size := (hpage 1 (le_refl 1)).mpr (by omega)
  by_cases hn : 1 ≤ n
  · have hbegins := hpage n hn
    have hends := hpage (n + 1) (by omega)
    rw [Int.add_sub_cancel] at hends
    rw [← hbegins]
    have hlast : count ≤ n * size ↔ totalPages count size ≤ n := by
      rw [← not_lt, ← hends]
      omega
    rw [hlast]
    omega
  · have hproduct : n * size ≤ 0 := Int.mul_nonpos_of_nonpos_of_nonneg (by omega) (by omega)
    constructor
    · intro heq
      omega
    · rintro ⟨-, hends⟩
      omega

end TotalPages

namespace ResultPage

/-- The numbers of a page are those of its window, and its pages are those that its count fills. -/
structure IsOf (w : PageWindow) (p : ResultPage α) : Prop where
  page_eq : p.page = w.page
  itemsPerPage_eq : p.itemsPerPage = w.size
  one_le_page : 1 ≤ p.page
  one_le_itemsPerPage : 1 ≤ p.itemsPerPage
  totalPages_of_count_eq_zero : p.count = 0 → p.totalPages = 0
  totalPages_eq_zero_iff : p.count + p.itemsPerPage ≤ maxInt64 → (p.totalPages = 0 ↔ p.count = 0)
  eq_totalPages_iff : p.count ≠ 0 → p.count + p.itemsPerPage ≤ maxInt64 → ∀ n,
    n = p.totalPages ↔ (n - 1) * p.itemsPerPage < p.count ∧ p.count ≤ n * p.itemsPerPage

variable {count page size : Int} {data : List α}

lemma isOf_ofWindow (count page size : Int) (data : List α) :
    (ofWindow count (.clamp page size) data).IsOf (.clamp page size) := by
  have hcount : 0 ≤ max count 0 := le_max_right count 0
  have hsize : 1 ≤ max size 1 := le_max_right size 1
  have hzero := FacetSearch.totalPages_eq_zero_iff hcount hsize
  refine ⟨rfl, rfl, le_max_right page 1, hsize, hzero.mpr, fun _ => hzero, fun hne _ n => ?_⟩
  have hone : 1 ≤ max count 0 := by
    have hne' : max count 0 ≠ 0 := hne
    omega
  exact FacetSearch.eq_totalPages_iff hone hsize

lemma isOf_flowJobs {w : PageWindow} {p : ResultPage α} (h : p.IsOf w) : p.flowJobs.IsOf w :=
  ⟨h.page_eq, h.itemsPerPage_eq, h.one_le_page, h.one_le_itemsPerPage,
    h.totalPages_of_count_eq_zero, h.totalPages_eq_zero_iff, h.eq_totalPages_iff⟩

/-- The flag of flows and jobs as a caller sees it. -/
lemma member?_isFlowJob (item : α → Json) (p : ResultPage α) :
    (p.toJson item).member? "isFlowJob" = p.isFlowJob.map .bool := by
  cases hflag : p.isFlowJob with
  | none => simp [toJson, Json.member?, hflag, List.lookup_cons]
  | some b => simp [toJson, Json.member?, hflag, List.lookup_cons]

end ResultPage

namespace SearchEngine

open Database

variable {e : SearchEngine} {db : Database} {options : Json} {w : PageWindow} {seconds : Float}
  {st : ServiceState}

lemma sent_ne_of_follows {result : Except Fault (ResultPage α)} {steps : Log → List Step}
    {log sent : Log} (h : db.Follows log (e.transaction log steps) result sent)
    (hok : result.isOk = true) : sent ≠ log := by
  intro hsent
  have hcomplete := h.complete hok
  rw [hsent, List.self_eq_append_right, List.map_eq_nil_iff, transaction] at hcomplete
  simp [opening] at hcomplete

/-- A page that a search gives is one of its window, for flows and jobs marked as such. Its count
and its entities are what the database replied to the two statements of one query. A search that
reads no page finds nothing. -/
theorem envelope_of_replies (e : SearchEngine) (db : Database) (options : Json) (page size : Int)
    (seconds : Float) (st : ServiceState) :
    let w := PageWindow.clamp page size
    let datasets := (e.searchDatasets db options w seconds).run st
    let flows := (e.searchFlows db options w seconds).run st
    (∀ p, datasets.1 = .ok p →
      p.IsOf w ∧ (p.toJson Dataset.toJson).member? "isFlowJob" = none ∧
      (datasets.2.sent = st.sent → p.count = 0 ∧ p.data = []) ∧
      match (DatasetFilter.ofOptions? options).bind fun f =>
          (f.plan w e.ranking).reads? db (e.begun st.sent) with
      | none => p.count = 0 ∧ p.data = []
      | some (before, q) => q.Replied db before (p.data.map Dataset.row) p.count) ∧
    ∀ p, flows.1 = .ok p →
      p.IsOf w ∧ (p.toJson FlowJob.toJson).member? "isFlowJob" = some (.bool true) ∧
      (flows.2.sent = st.sent → p.count = 0 ∧ p.data = []) ∧
      match FlowFilter.ofOptions? options with
      | none => p.count = 0 ∧ p.data = []
      | some f => ∃ rows, (f.query w).Replied db (e.begun st.sent) rows p.count ∧
          List.Forall₂ (FlowJob.Shows f.searchesJobs) rows p.data := by
  intro w datasets flows
  constructor
  · intro p hp
    cases hoptions : DatasetFilter.ofOptions? options with
    | none =>
      have hnone : datasets.1 = .ok (.empty w) := by
        simp only [datasets, searchDatasets, hoptions]
        rfl
      obtain rfl : ResultPage.empty w = p := Except.ok.inj (hnone.symm.trans hp)
      exact ⟨ResultPage.isOf_ofWindow 0 page size [], rfl, fun _ => ⟨rfl, rfl⟩, rfl, rfl⟩
    | some f =>
      obtain ⟨count, data, hpage, hreplied⟩ := replied_of_searchDatasets hoptions hp
      -- A search with options at least opens a transaction.
      have hsent := sent_ne_of_follows (follows_searchDatasets e db hoptions w seconds st)
        (congrArg Except.isOk hp)
      refine ⟨?_, ?_, fun hnothing => absurd hnothing hsent, hreplied⟩
      · rw [hpage]
        exact ResultPage.isOf_ofWindow count page size data
      · rw [ResultPage.member?_isFlowJob, hpage]
        rfl
  · intro p hp
    cases hoptions : FlowFilter.ofOptions? options with
    | none =>
      have hnone : flows.1 = .ok (ResultPage.empty w).flowJobs := by
        simp only [flows, searchFlows, hoptions]
        rfl
      obtain rfl : (ResultPage.empty w).flowJobs = p := Except.ok.inj (hnone.symm.trans hp)
      exact ⟨ResultPage.isOf_flowJobs (ResultPage.isOf_ofWindow 0 page size []), rfl,
        fun _ => ⟨rfl, rfl⟩, rfl, rfl⟩
    | some f =>
      obtain ⟨count, data, rows, hpage, hreplied, hshows⟩ := replied_of_searchFlows hoptions hp
      have hsent := sent_ne_of_follows (follows_searchFlows e db hoptions w seconds st)
        (congrArg Except.isOk hp)
      refine ⟨?_, ?_, fun hnothing => absurd hnothing hsent, rows, hreplied, hshows⟩
      · rw [hpage]
        exact ResultPage.isOf_flowJobs (ResultPage.isOf_ofWindow count page size data)
      · rw [ResultPage.member?_isFlowJob, hpage]
        rfl

/-- Of two rows of a count the first one counts, and a page before the first one is the first. -/
theorem envelope_of_replies_counted :
    let e : SearchEngine := ⟨⟨[], 9⟩, ⟨20, 100⟩, 0⟩
    let row : Row := [.text "AZ", .bigint 7, .text "daily", .null, .text "etl", .null, .null, .null,
      .null]
    let db := Script.database { replies := [.rows [row], .rows [[.bigint 25], [.bigint 9]]] }
    let flows := (e.searchFlows db (.object []) (.clamp 0 10) 0.5).run {}
    ∃ p, flows.1 = .ok p ∧ p.page = 1 ∧ p.count = 25 ∧ p.totalPages = 3 ∧
      (p.toJson FlowJob.toJson).member? "isFlowJob" = some (.bool true) ∧
      ∃ f, p.data = [f] ∧ FlowJob.Shows false row f := by
  intro e row db flows
  let f : FlowJob := ⟨"AZ", 7, "daily", none, some "etl", none, none, none, "daily",
    "#/flows/AZ/etl/7/page/1", "AZ/"⟩
  let p : ResultPage FlowJob := ⟨25, 1, 10, 3, some true, [f]⟩
  have hp : flows.1 = .ok p := rfl
  obtain ⟨hwindow, hflag, -, rows, hreplied, hshows⟩ :=
    (envelope_of_replies e db (.object []) 0 10 0.5 {}).2 p hp
  have hrows : rows = [row] := Reply.rows.inj (hreplied.page.symm.trans rfl)
  have htotal : 3 = p.totalPages :=
    (hwindow.eq_totalPages_iff (by decide) (by decide) 3).mpr (by decide)
  rw [hrows] at hshows
  obtain ⟨hshown, -⟩ := List.forall₂_cons.mp hshows
  exact ⟨p, hp, hwindow.page_eq, rfl, htotal.symm, hflag, f, rfl, hshown⟩

end SearchEngine

end FacetSearch
