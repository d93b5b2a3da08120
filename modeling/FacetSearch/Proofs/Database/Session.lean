import FacetSearch.Proofs.Query.Result
import FacetSearch.Search
import Mathlib.Data.Set.List

/-!
# Runs of sessions

What a session gives when the database refuses nothing and answers queries from one snapshot.
-/

namespace FacetSearch

namespace Session

variable {α β : Type} {log sent : Log}

lemma run_bind_ok {x : Session α} {a : α} (h : x.run log = (.ok a, sent)) (f : α → Session β) :
    (x >>= f).run log = (f a).run sent := by
  have hx : x log = (.ok a, sent) := h
  simp only [bind, ExceptT.bind, ExceptT.mk, ExceptT.run, StateT.bind, hx]
  rfl

lemma run_pure (a : α) : (pure a : Session α).run log = (.ok a, log) := rfl

end Session

namespace Database

/-- The database lends a connection and refuses none of the commands around the queries. -/
structure Serves (db : Database) : Prop where
  lends : ∀ log, db.fault log = none
  accepts : ∀ log c, (∀ statement, c ≠ .query statement) → ∃ rows, db.answer log c = .rows rows

variable {db : Database} {log : Log}

lemma run_connect (h : db.fault log = none) : db.connect.run log = (.ok (), log) := by
  simp only [connect, ExceptT.run_mk, h]

lemma run_connect_of_fault {fault : PoolFault} (h : db.fault log = some fault) :
    db.connect.run log = (.error (.pool fault), log) := by
  simp only [connect, ExceptT.run_mk, h]

lemma run_send {c : Command} {rows : List Row} (h : db.answer log c = .rows rows) :
    (db.send c).run log = (.ok rows, log ++ [c]) := by
  simp only [send, ExceptT.run_mk, h]

lemma Serves.execute (h : db.Serves) {c : Command} (hc : ∀ statement, c ≠ .query statement)
    (log : Log) : (db.execute c).run log = (.ok (), log ++ [c]) := by
  obtain ⟨rows, hrows⟩ := h.accepts log c hc
  rw [Database.execute, Session.run_bind_ok (run_send hrows), Session.run_pure]

lemma Serves.beginSnapshot (h : db.Serves) (e : SearchEngine) (log : Log) :
    ∃ sent, (e.beginSnapshot db).run log = (.ok (), sent) := by
  have hbegin := h.execute (c := .begin) (by simp) log
  have hsnapshot := h.execute (c := .snapshot) (by simp) (log ++ [.begin])
  rw [SearchEngine.beginSnapshot, Session.run_bind_ok (run_connect (h.lends log)),
    Session.run_bind_ok hbegin, Session.run_bind_ok hsnapshot]
  by_cases htime : 0 < e.timeoutMilliseconds
  · rw [if_pos htime, h.execute (by simp)]
    exact ⟨_, rfl⟩
  · rw [if_neg htime]
    exact ⟨_, rfl⟩

lemma run_fetchAll {α : Type} {read : Row → Option α} {st : Statement} {rows : List Row}
    {values : List α} (h : db.answer log (.query st) = .rows rows)
    (hread : rows.mapM read = some values) :
    (db.fetchAll read st).run log = (.ok values, log ++ [.query st]) := by
  rw [fetchAll, Session.run_bind_ok (run_send h), hread]
  rfl

lemma run_fetchFirst {α : Type} {read : Row → Option α} {st : Statement} {row : Row} {a : α}
    (h : db.answer log (.query st) = .rows [row]) (hread : read row = some a) :
    (db.fetchFirst read st).run log = (.ok (some a), log ++ [.query st]) := by
  rw [fetchFirst, Session.run_bind_ok (run_send h)]
  simp only [List.head?_cons, hread]
  rfl

end Database

/-- A dataset as it is found. -/
def DatasetRecord.dataset (d : DatasetRecord) : Dataset := ⟨d.id, d.name, d.source, d.urn, d.schema⟩

/-- Every dataset of a result can be read. -/
lemma mapM_project_datasets (records : List DatasetRecord) :
    (Snapshot.project Query.datasets.columns (records.map DatasetRecord.tuple)).mapM
      Dataset.ofRow? = some (records.map DatasetRecord.dataset) := by
  have hitems : Text.commaItems Query.datasets.columns =
      ["d.id", "d.name", "d.source", "d.urn", "d.\"schema\""] := by
    decide
  have hread (d : DatasetRecord) :
      Dataset.ofRow? ((Text.commaItems Query.datasets.columns).map d.tuple.cell) =
        pure d.dataset := by
    rw [hitems]
    obtain ⟨id, name, parentName, source, urn, schema⟩ := d
    cases source <;> cases schema <;> rfl
  rw [Snapshot.project, if_neg (by decide), List.map_map, List.mapM_map]
  exact (congrArg (fun read => records.mapM read) (funext hread)).trans List.mapM_pure

lemma mapM_project_ids (records : List DatasetRecord) :
    (Snapshot.project Query.datasets.idColumn (records.map DatasetRecord.tuple)).mapM Row.bigint? =
      some (records.map DatasetRecord.id) := by
  have hitems : Text.commaItems Query.datasets.idColumn = ["d.id"] := by decide
  have hread (d : DatasetRecord) :
      Row.bigint? ((Text.commaItems Query.datasets.idColumn).map d.tuple.cell) = pure d.id := by
    rw [hitems]
    rfl
  rw [Snapshot.project, if_neg (by decide), List.map_map, List.mapM_map]
  exact (congrArg (fun read => records.mapM read) (funext hread)).trans List.mapM_pure

namespace Query

variable {rules : TextRules} {s : Snapshot} {q : Query}

/-- The rows of a query for datasets are datasets. -/
lemma Gives.exists_records {out : List Tuple} (h : q.Gives rules s out)
    (hrelation : q.relation = Query.datasets.relation) :
    ∃ records : List DatasetRecord, out = records.map DatasetRecord.tuple := by
  have hout : ∀ t ∈ out, t ∈ Set.range DatasetRecord.tuple := by
    intro t ht
    have hrows : t ∈ s.relation q.relation := (mem_rows.mp (h.subset ht)).1
    rw [hrelation] at hrows
    obtain ⟨d, -, rfl⟩ := List.mem_map.mp hrows
    exact ⟨d, rfl⟩
  have hrange : out ∈ Set.range (List.map DatasetRecord.tuple) := by
    rw [Set.range_list_map]
    exact hout
  obtain ⟨records, hrecords⟩ := hrange
  exact ⟨records, hrecords.symm⟩

end Query

namespace SearchEngine

variable {rules : TextRules} {s : Snapshot} {db : Database} {q : Query}

lemma run_fetchCount (h : db.Evaluates rules s q.counting) (log : Log) :
    (db.fetchFirst Row.bigint? q.countStatement).run log =
      (.ok (some ((q.rows rules s).length : Int)), log ++ [.query q.countStatement]) := by
  obtain ⟨out, hgives, hanswer⟩ := h log
  have hlength : out.length = (q.rows rules s).length := hgives.perm_of_counting.length_eq
  have hproject : Snapshot.project q.counting.columns out =
      [[.bigint (q.rows rules s).length]] := by
    rw [Query.counting, Snapshot.project, if_pos rfl, hlength]
  rw [Query.countStatement_eq_counting]
  rw [hproject] at hanswer
  exact Database.run_fetchFirst hanswer rfl

lemma run_fetchPage (hcolumns : q.columns = Query.datasets.columns)
    (hrelation : q.relation = Query.datasets.relation) (hpage : db.Evaluates rules s q)
    (hcount : db.Evaluates rules s q.counting) (log : Log) :
    ∃ (records : List DatasetRecord) (sent : Log),
      q.Gives rules s (records.map DatasetRecord.tuple) ∧
      (fetchPage db Dataset.ofRow? q).run log =
        (.ok (((q.rows rules s).length : Int), records.map DatasetRecord.dataset), sent) := by
  obtain ⟨out, hgives, hanswer⟩ := hpage log
  obtain ⟨records, rfl⟩ := hgives.exists_records hrelation
  rw [hcolumns] at hanswer
  have hdata := Database.run_fetchAll hanswer (mapM_project_datasets records)
  refine ⟨records, log ++ [.query q.pageStatement] ++ [.query q.countStatement], hgives, ?_⟩
  rw [fetchPage, Session.run_bind_ok hdata, Session.run_bind_ok (run_fetchCount hcount _)]
  rfl

/-- A structured search gives a page of its query and the number of all its rows. -/
theorem run_structured (e : SearchEngine) (hserves : db.Serves)
    (hcolumns : q.columns = Query.datasets.columns)
    (hrelation : q.relation = Query.datasets.relation) (hpage : db.Evaluates rules s q)
    (hcount : db.Evaluates rules s q.counting) (w : PageWindow) (log : Log) :
    ∃ records : List DatasetRecord, q.Gives rules s (records.map DatasetRecord.tuple) ∧
      ((e.runDatasets db (.structured q) w).run log).1 =
        .ok (.ofWindow (q.rows rules s).length w (records.map DatasetRecord.dataset)) := by
  obtain ⟨begun, hbegin⟩ := hserves.beginSnapshot e log
  obtain ⟨records, sent, hgives, hrun⟩ := run_fetchPage hcolumns hrelation hpage hcount begun
  refine ⟨records, hgives, ?_⟩
  rw [runDatasets, Session.run_bind_ok hbegin, Session.run_bind_ok hrun,
    Session.run_bind_ok (hserves.execute (by simp) sent)]
  rfl

end SearchEngine

end FacetSearch
