import FacetSearch.Proofs.Database.Session
import FacetSearch.Proofs.Query.Facets

/-!
# Narrowed searches

A search with facets and free text first asks for the datasets that the facets admit, and then
looks for the text among these. Both steps together give what one query with all conditions
gives.
-/

namespace FacetSearch

section Identified

variable {rules : TextRules} {s : Snapshot} {q : Query} {ids : List Int}

/-- A dataset is identified just when the query keeps it, since no other dataset has its
identifier. -/
lemma Query.Identifies.mem_ids (hids : q.Identifies rules s ids)
    (hidColumn : q.idColumn = datasets.idColumn) (hrelation : q.relation = datasets.relation)
    {d : DatasetRecord} (hd : d ∈ s.datasets) :
    d.id ∈ ids ↔ q.keeps rules s d.tuple = true := by
  have hrows : q.rows rules s =
      (s.datasets.map DatasetRecord.tuple).filter (q.keeps rules s) := by
    rw [rows, hrelation]
    rfl
  have hcell (e : DatasetRecord) : e.tuple.cell q.idColumn = .bigint e.id := by
    rw [hidColumn]
    rfl
  have hmem : d.id ∈ ids ↔ Cell.bigint d.id ∈ ids.map Cell.bigint := by
    simp
  rw [hmem, List.Perm.mem_iff hids, hrows]
  simp only [List.mem_map, List.mem_filter, exists_exists_and_eq_and, and_assoc]
  constructor
  · rintro ⟨e, he, hkept, hid⟩
    rw [hcell, Cell.bigint.injEq] at hid
    have hsame : e = d := List.inj_on_of_nodup_map s.datasets_key he hd hid
    exact hsame ▸ hkept
  · intro hkept
    exact ⟨d, hd, hkept, hcell d⟩

/-- The comments on a dataset do not depend on what the clause for all fields computes. -/
lemma Clause.holds_comments (text : String) (ids ids' : List Int) (t : Tuple) :
    (comments text).holds rules (s.heads ids) t =
      (comments text).holds rules (s.heads ids') t := by
  have hcomments : s.heads ids "SELECT c.dataset_id FROM comments c" =
      s.heads ids' "SELECT c.dataset_id FROM comments c" := rfl
  have hfields : s.heads ids ("SELECT dfc.dataset_id FROM dict_dataset_field_comment dfc " ++
        "JOIN field_comments fc ON fc.id = dfc.comment_id") =
      s.heads ids' ("SELECT dfc.dataset_id FROM dict_dataset_field_comment dfc " ++
        "JOIN field_comments fc ON fc.id = dfc.comment_id") := rfl
  simp only [comments, Predicate.holds, Predicate.truth?, Predicate.selectedByAny,
    Predicate.selectedBy, hcomments, hfields]

lemma FollowUp.keeps_query (followUp : FollowUp) (ids : List Int) (d : DatasetRecord) :
    (followUp.query ids).keeps rules s d.tuple = true ↔
      d.id ∈ ids ∧ (Clause.comments followUp.text).holds rules (s.heads []) d.tuple = true := by
  have hid : d.tuple.cell "d.id" = .bigint d.id := rfl
  have hfilters : (followUp.query ids).filters =
      [.idIn "d.id" ids, Clause.comments followUp.text] := rfl
  have hnone : (followUp.query ids).allFieldIds rules s = [] := Query.allFieldIds_of_isEmpty rfl
  rw [Query.keeps_iff, hfilters, List.forall_mem_cons, List.forall_mem_singleton,
    Predicate.holds_idIn hid, Query.heads, hnone]

lemma FollowUp.rows_query_eq_filter (followUp : FollowUp) (ids : List Int) :
    (followUp.query ids).rows rules s =
      (s.datasets.map DatasetRecord.tuple).filter ((followUp.query ids).keeps rules s) := rfl

/-- Among the datasets that a query identifies, the follow-up finds those with the comments. -/
lemma FollowUp.rows_query (followUp : FollowUp) (hids : q.Identifies rules s ids)
    (hidColumn : q.idColumn = Query.datasets.idColumn)
    (hrelation : q.relation = Query.datasets.relation) :
    (followUp.query ids).rows rules s =
      (s.datasets.map DatasetRecord.tuple).filter fun t =>
        q.keeps rules s t &&
          (Clause.comments followUp.text).holds rules (q.heads rules s) t := by
  rw [rows_query_eq_filter]
  refine List.filter_congr fun t ht => ?_
  obtain ⟨d, hd, rfl⟩ := List.mem_map.mp ht
  rw [Bool.eq_iff_iff, Bool.and_eq_true, keeps_query, hids.mem_ids hidColumn hrelation hd,
    Query.heads, Clause.holds_comments _ _ (q.allFieldIds rules s)]

lemma FollowUp.rows_query_perm {followUp followUp' : FollowUp}
    (htext : followUp.text = followUp'.text) {ids' : List Int} (hperm : ids.Perm ids') :
    (followUp.query ids).rows rules s = (followUp'.query ids').rows rules s := by
  rw [rows_query_eq_filter, rows_query_eq_filter]
  refine List.filter_congr fun t ht => ?_
  obtain ⟨d, -, rfl⟩ := List.mem_map.mp ht
  rw [Bool.eq_iff_iff, keeps_query, keeps_query, htext, hperm.mem_iff]

lemma FollowUp.rows_query_nil (followUp : FollowUp) (rules : TextRules) (s : Snapshot) :
    (followUp.query []).rows rules s = [] := by
  rw [rows_query_eq_filter, List.filter_eq_nil_iff]
  intro t ht
  obtain ⟨d, -, rfl⟩ := List.mem_map.mp ht
  rw [keeps_query]
  exact fun hkept => List.not_mem_nil hkept.1

end Identified

namespace Ranking

variable {rules : TextRules} {t : Tuple}

/-- The order of datasets looks at their own columns only. -/
lemma cells_datasetOrder (r : Ranking) (terms : List String) (heads heads' : Heads) :
    Order.cells rules heads t (r.datasetOrder terms) =
      Order.cells rules heads' t (r.datasetOrder terms) := by
  have hname : (nameKey terms).cell? rules heads t = (nameKey terms).cell? rules heads' t := by
    rfl
  have hspace : r.namespaceKey.cell? rules heads t = r.namespaceKey.cell? rules heads' t := by
    have harms : (r.namespaces.map namespaceTier).filterMap (Tier.arm rules heads t) =
        (r.namespaces.map namespaceTier).filterMap (Tier.arm rules heads' t) := by
      rw [List.filterMap_map, List.filterMap_map]
      rfl
    rw [namespaceKey, OrderKey.cell?, OrderKey.cell?, harms]
  have hkeys : ∀ key ∈ r.datasetOrder terms,
      key.cell? rules heads t = key.cell? rules heads' t := by
    intro key hkey
    rw [datasetOrder, List.append_assoc, List.mem_append, List.mem_append] at hkey
    rcases hkey with hkey | hkey | hkey
    · split at hkey
      · cases hkey
      · rw [List.mem_singleton.mp hkey, hname]
    · split at hkey
      · cases hkey
      · rw [List.mem_singleton.mp hkey, hspace]
    · obtain ⟨column, -, rfl⟩ := List.mem_map.mp hkey
      rfl
  exact List.filterMap_congr hkeys

end Ranking

section Runs

variable {rules : TextRules} {s : Snapshot} {db : Database} {candidates : Query}
  {followUp : FollowUp}

lemma Query.gives_nil {q : Query} (h : q.rows rules s = []) : q.Gives rules s [] := by
  refine ⟨[], ?_, List.Pairwise.nil, ?_⟩
  · rw [h]
  · exact (List.sublist_nil.mp (q.cut_sublist [])).symm

/-- The identifiers that a narrowed search reads are those of its candidates. -/
lemma SearchEngine.run_fetchIds (hidColumn : candidates.idColumn = Query.datasets.idColumn)
    (hrelation : candidates.relation = Query.datasets.relation)
    (hids : db.Evaluates rules s candidates.identifying) (log : Log) :
    ∃ ids, candidates.Identifies rules s ids ∧
      (db.fetchAll Row.bigint? candidates.idsStatement).run log =
        (.ok ids, log ++ [.query candidates.idsStatement]) := by
  obtain ⟨out, hgives, hanswer⟩ := hids log
  obtain ⟨records, rfl⟩ := hgives.exists_records hrelation
  have hperm : (records.map DatasetRecord.tuple).Perm (candidates.rows rules s) := hgives.perm rfl
  have hcolumns : candidates.identifying.columns = Query.datasets.idColumn := hidColumn
  rw [hcolumns] at hanswer
  refine ⟨records.map DatasetRecord.id, ?_, ?_⟩
  · have hcells := hperm.map fun t => t.cell candidates.idColumn
    rw [hidColumn, List.map_map] at hcells
    rw [Query.Identifies, hidColumn, List.map_map]
    exact hcells
  · rw [Query.idsStatement_eq_identifying]
    exact Database.run_fetchAll hanswer (mapM_project_ids records)

lemma SearchEngine.run_unmatched (e : SearchEngine) (hserves : db.Serves)
    (hidColumn : candidates.idColumn = Query.datasets.idColumn)
    (hrelation : candidates.relation = Query.datasets.relation)
    (hnone : candidates.Identifies rules s [])
    (hids : db.Evaluates rules s candidates.identifying) (w : PageWindow) (log : Log) :
    ((e.runDatasets db (.narrowed candidates followUp) w).run log).1 = .ok (.empty w) := by
  obtain ⟨begun, hbegin⟩ := hserves.beginSnapshot e log
  obtain ⟨ids, hidentifies, hfetch⟩ := run_fetchIds hidColumn hrelation hids begun
  have hempty : ids = [] := by
    have hperm := List.Perm.trans hidentifies (List.Perm.symm hnone)
    simpa using hperm
  rw [runDatasets, Session.run_bind_ok hbegin, Session.run_bind_ok hfetch, hempty,
    List.isEmpty_nil, if_pos rfl, Session.run_bind_ok (hserves.execute (by simp) _)]
  rfl

/-- A narrowed search gives a page of its follow-up among the candidates, and the number of all
rows of that one, also where it looks for nothing because there are no candidates. -/
theorem SearchEngine.run_narrowed (e : SearchEngine) (hserves : db.Serves)
    (hidColumn : candidates.idColumn = Query.datasets.idColumn)
    (hrelation : candidates.relation = Query.datasets.relation)
    (hids : db.Evaluates rules s candidates.identifying)
    (hpage : ∀ ids, db.Evaluates rules s (followUp.query ids))
    (hcount : ∀ ids, db.Evaluates rules s (followUp.query ids).counting) (w : PageWindow)
    (log : Log) :
    ∃ (ids : List Int) (records : List DatasetRecord),
      candidates.Identifies rules s ids ∧
      (followUp.query ids).Gives rules s (records.map DatasetRecord.tuple) ∧
      ((e.runDatasets db (.narrowed candidates followUp) w).run log).1 =
        .ok (.ofWindow ((followUp.query ids).rows rules s).length w
          (records.map DatasetRecord.dataset)) := by
  obtain ⟨begun, hbegin⟩ := hserves.beginSnapshot e log
  obtain ⟨ids, hidentifies, hfetch⟩ := run_fetchIds hidColumn hrelation hids begun
  cases ids with
  | nil =>
    have hrows := followUp.rows_query_nil rules s
    refine ⟨[], [], hidentifies, Query.gives_nil hrows, ?_⟩
    rw [e.run_unmatched hserves hidColumn hrelation hidentifies hids, hrows]
    rfl
  | cons id ids =>
    obtain ⟨records, sent, hgives, hrun⟩ := run_fetchPage (q := followUp.query (id :: ids)) rfl rfl
      (hpage _) (hcount _) (begun ++ [.query candidates.idsStatement])
    refine ⟨id :: ids, records, hidentifies, hgives, ?_⟩
    rw [runDatasets, Session.run_bind_ok hbegin, Session.run_bind_ok hfetch, List.isEmpty_cons,
      if_neg (by simp), Session.run_bind_ok hrun,
      Session.run_bind_ok (hserves.execute (by simp) sent)]
    rfl

end Runs

/-- A search with facets and free text is narrowed. Whatever the order in which its candidates are
read, the follow-up has as rows the datasets that fulfil the conditions of the facets and the one
on comments; its count is about the same rows, and they are sorted by the keys of the search
without the free text. Where there are no candidates, the page given at once is the one that the
follow-up would give. -/
theorem DatasetFilter.narrowed_is_conjunction (rules : TextRules) (s : Snapshot)
    (f : DatasetFilter) (text : String) (w : PageWindow) (r : Ranking)
    (hcomments : f.comments = some text) (hstructured : f.isStructured = true) :
    ∃ (candidates : Query) (followUp : FollowUp) (plain : Query),
      f.plan w r = .narrowed candidates followUp ∧
      DatasetFilter.plan { f with comments := none } w r = .structured plain ∧
      ∀ ids : List Int, candidates.Identifies rules s ids →
        (followUp.query ids).rows rules s =
          ((s.datasets.map DatasetRecord.tuple).filter fun t =>
            f.structuredQuery.keeps rules s t &&
              (Clause.comments text).holds rules (f.structuredQuery.heads rules s) t) ∧
        (followUp.query ids).countStatement = (followUp.query ids).counting.pageStatement ∧
        (∀ out, (followUp.query ids).counting.Gives rules s out →
          out.Perm ((followUp.query ids).rows rules s)) ∧
        (followUp.query ids).order = plain.order ∧
        (∀ t, (followUp.query ids).sortCells rules s t = plain.sortCells rules s t) ∧
        (ids = [] → ∀ (e : SearchEngine) (db : Database) (log : Log), db.Serves →
          db.Evaluates rules s candidates.identifying →
          db.Evaluates rules s (followUp.query ids) →
          db.Evaluates rules s (followUp.query ids).counting →
          ((e.runDatasets db (.narrowed candidates followUp) w).run log).1 = .ok (.empty w) ∧
          ((e.runDatasets db (.structured (followUp.query ids)) w).run log).1 =
            .ok (.empty w)) := by
  let order := r.datasetOrder f.table.wanted
  let followUp : FollowUp := ⟨text, order, w⟩
  let plain : Query := (f.structuredQuery.orderBy order).page w
  have hidColumn : f.structuredQuery.idColumn = Query.datasets.idColumn := by
    rw [structuredQuery_eq]
  have hrelation : f.structuredQuery.relation = Query.datasets.relation := by
    rw [structuredQuery_eq]
  refine ⟨f.structuredQuery, followUp, plain, ?_, rfl, ?_⟩
  · simp only [plan, hcomments, hstructured, if_true, followUp, order]
  · intro ids hids
    refine ⟨followUp.rows_query hids hidColumn hrelation, Query.countStatement_eq_counting _,
      fun out hout => hout.perm_of_counting, rfl, fun t => r.cells_datasetOrder _ _ _, ?_⟩
    rintro rfl e db log hserves hidentifies hpage hcount
    refine ⟨e.run_unmatched hserves hidColumn hrelation hids hidentifies w log, ?_⟩
    obtain ⟨records, hgives, hrun⟩ := e.run_structured (q := followUp.query []) hserves rfl rfl
      hpage hcount w log
    have hrows := followUp.rows_query_nil rules s
    have hnone : records = [] := by
      have hsubset := hgives.subset
      rw [hrows, List.subset_nil, List.map_eq_nil_iff] at hsubset
      exact hsubset
    rw [hrun, hrows, hnone]
    rfl

/-- Of two datasets with comments on costs, one is found through its source. Another source has
no datasets, and the database is asked for no comments. -/
theorem DatasetFilter.narrowed_is_conjunction_cost :
    let orders : DatasetRecord := ⟨1, "orders", none, some "hive", "urn:orders", none⟩
    let users : DatasetRecord := ⟨2, "users", none, some "pinot", "urn:users", none⟩
    let s : Snapshot := ⟨[orders, users], [], [⟨1, "Daily cost"⟩, ⟨2, "Cost"⟩], [], [], [], [], [],
      by decide, by decide, by decide, by decide⟩
    let f : DatasetFilter := { sources := ["hive"], comments := some "cost" }
    let g : DatasetFilter := { sources := ["kafka"], comments := some "cost" }
    let w : PageWindow := ⟨1, 20⟩
    let e : SearchEngine := ⟨⟨[], 0⟩, ⟨20, 100⟩, 0⟩
    let db : Database := ⟨fun _ => none, fun _ c => match c with
      | .query statement => .rows (if statement.binds.length = 3 then [[.bigint 0]] else [])
      | _ => .rows []⟩
    (∃ candidates followUp, f.plan w e.ranking = .narrowed candidates followUp ∧
      candidates.Identifies .ascii s [1] ∧
      (followUp.query [1]).rows .ascii s = [orders.tuple]) ∧
    ∃ candidates followUp, g.plan w e.ranking = .narrowed candidates followUp ∧
      candidates.Identifies .ascii s [] ∧
      ((e.runDatasets db (.narrowed candidates followUp) w).run []).1 = .ok (.empty w) := by
  intro orders users s f g w e db
  constructor
  · obtain ⟨candidates, followUp, plain, hplan, -, h⟩ :=
      f.narrowed_is_conjunction .ascii s "cost" w e.ranking rfl rfl
    have hcandidates : .narrowed f.structuredQuery _ = DatasetPlan.narrowed candidates followUp :=
      hplan
    obtain ⟨rfl, -⟩ := DatasetPlan.narrowed.inj hcandidates
    have hids : f.structuredQuery.Identifies .ascii s [1] := List.Perm.of_eq rfl
    refine ⟨_, followUp, hplan, hids, ?_⟩
    rw [(h [1] hids).1]
    rfl
  · obtain ⟨candidates, followUp, plain, hplan, -, h⟩ :=
      g.narrowed_is_conjunction .ascii s "cost" w e.ranking rfl rfl
    have hcandidates : .narrowed g.structuredQuery _ = DatasetPlan.narrowed candidates followUp :=
      hplan
    obtain ⟨rfl, rfl⟩ := DatasetPlan.narrowed.inj hcandidates
    have hids : g.structuredQuery.Identifies .ascii s [] := List.Perm.of_eq rfl
    have hnone : g.structuredQuery.rows .ascii s = [] := rfl
    have hserves : db.Serves := by
      refine ⟨fun _ => rfl, fun log c hc => ?_⟩
      cases c with
      | query statement => exact absurd rfl (hc statement)
      | _ => exact ⟨[], rfl⟩
    have hanswer (log : Log) (statement : Statement) : db.answer log (.query statement) =
        .rows (if statement.binds.length = 3 then [[.bigint 0]] else []) := rfl
    have hrows := FollowUp.rows_query_nil
      ⟨"cost", e.ranking.datasetOrder g.table.wanted, w⟩ .ascii s
    obtain ⟨-, -, -, -, -, hempty⟩ := h [] hids
    refine ⟨_, _, hplan, hids, (hempty rfl e db [] hserves ?_ ?_ ?_).1⟩
    · refine fun log => ⟨[], Query.gives_nil hnone, ?_⟩
      rw [hanswer, if_neg (by decide)]
      rfl
    · refine fun log => ⟨[], Query.gives_nil hrows, ?_⟩
      rw [hanswer, if_neg (by decide)]
      rfl
    · refine fun log => ⟨[], Query.gives_nil hrows, ?_⟩
      rw [hanswer, if_pos (by decide)]
      rfl

end FacetSearch
