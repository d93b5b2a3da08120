import FacetSearch.Proofs.Catalog.Snapshot
import FacetSearch.Proofs.Database.Protocol

/-!
# What successful searches have read

A session that succeeds has read every reply on its way. The page it gives holds what was replied
to its two statements: an entity for each row, and the number in the first row of the count.
-/

namespace FacetSearch

namespace Session

variable {α β : Type} {log sent : Log}

/-- A session succeeds only where both of its parts do. -/
lemma exists_of_bind_ok {x : Session α} {f : α → Session β} {b : β}
    (h : (x >>= f).run log = (.ok b, sent)) :
    ∃ a between, x.run log = (.ok a, between) ∧ (f a).run between = (.ok b, sent) := by
  rcases hx : x.run log with ⟨fault | a, between⟩
  · rw [run_bind_error hx] at h
    cases h
  · rw [run_bind_ok hx] at h
    exact ⟨a, between, rfl, h⟩

lemma eq_of_pure_ok {a b : α} (h : (pure a : Session α).run log = (.ok b, sent)) :
    b = a ∧ sent = log := by
  rw [run_pure] at h
  cases h
  exact ⟨rfl, rfl⟩

end Session

lemma forall₂_of_mapM_eq_some {α β : Type} {read : α → Option β} {as : List α} {bs : List β}
    (h : as.mapM read = some bs) : List.Forall₂ (fun a b => read a = some b) as bs := by
  induction as generalizing bs with
  | nil =>
    cases h
    exact .nil
  | cons a as ih =>
    rw [List.mapM_cons] at h
    obtain ⟨b, hb, h⟩ := Option.bind_eq_some_iff.mp h
    obtain ⟨bs, hbs, h⟩ := Option.bind_eq_some_iff.mp h
    cases h
    exact .cons hb (ih hbs)

namespace Database

variable {α : Type} {db : Database} {log sent : Log} {read : Row → Option α} {st : Statement}

lemma reply_of_send {c : Command} {rows : List Row} (h : (db.send c).run log = (.ok rows, sent)) :
    db.answer log c = .rows rows ∧ sent = log ++ [c] := by
  cases hanswer : db.answer log c with
  | refused code message =>
    rw [Session.run_send_refused hanswer] at h
    cases h
  | rows rows' =>
    rw [run_send hanswer] at h
    cases h
    exact ⟨rfl, rfl⟩

lemma reply_of_fetchAll {values : List α} (h : (db.fetchAll read st).run log = (.ok values, sent)) :
    (∃ rows, db.answer log (.query st) = .rows rows ∧
      List.Forall₂ (fun row v => read row = some v) rows values) ∧ sent = log ++ [.query st] := by
  obtain ⟨rows, between, hsend, hread⟩ := Session.exists_of_bind_ok h
  obtain ⟨hanswer, rfl⟩ := reply_of_send hsend
  cases hvalues : rows.mapM read with
  | none =>
    rw [hvalues] at hread
    cases hread
  | some values' =>
    rw [hvalues] at hread
    obtain ⟨rfl, rfl⟩ := Session.eq_of_pure_ok hread
    exact ⟨⟨rows, hanswer, forall₂_of_mapM_eq_some hvalues⟩, rfl⟩

lemma reply_of_fetchFirst {value : Option α}
    (h : (db.fetchFirst read st).run log = (.ok value, sent)) :
    (∃ rows, db.answer log (.query st) = .rows rows ∧
      (rows = [] ∧ value = none ∨
        ∃ row rest v, rows = row :: rest ∧ read row = some v ∧ value = some v)) ∧
      sent = log ++ [.query st] := by
  obtain ⟨rows, between, hsend, hread⟩ := Session.exists_of_bind_ok h
  obtain ⟨hanswer, rfl⟩ := reply_of_send hsend
  cases rows with
  | nil =>
    obtain ⟨rfl, rfl⟩ := Session.eq_of_pure_ok hread
    exact ⟨⟨[], hanswer, .inl ⟨rfl, rfl⟩⟩, rfl⟩
  | cons row rest =>
    rw [List.head?_cons] at hread
    cases hv : read row with
    | none =>
      simp only [hv] at hread
      cases hread
    | some v =>
      simp only [hv] at hread
      obtain ⟨rfl, rfl⟩ := Session.eq_of_pure_ok hread
      exact ⟨⟨row :: rest, hanswer, .inr ⟨row, rest, v, rfl, hv, rfl⟩⟩, rfl⟩

end Database

/-- What the database replies to the two statements of a page: the rows of the page, and a count
that is the number in its first row, raised to zero, or zero if it has no row. -/
structure Query.Replied (db : Database) (log : Log) (q : Query) (rows : List Row) (count : Int) :
    Prop where
  page : db.answer log (.query q.pageStatement) = .rows rows
  count : ∃ counts, db.answer (log ++ [.query q.pageStatement]) (.query q.countStatement) =
    .rows counts ∧
    (counts = [] ∧ count = 0 ∨ ∃ n rest, counts = [.bigint n] :: rest ∧ count = max n 0)

lemma Row.eq_of_bigint? {row : Row} {n : Int} (h : Row.bigint? row = some n) :
    row = [.bigint n] := by
  match row with
  | [.bigint m] =>
    cases h
    rfl
  | [.null] | [.text _] | [] | _ :: _ :: _ => cases h

namespace SearchEngine

variable {α : Type} {db : Database} {log sent : Log} {read : Row → Option α} {q : Query}

lemma replied_of_fetchPage {count : Int} {data : List α}
    (h : (fetchPage db read q).run log = (.ok (count, data), sent)) :
    (∃ rows, q.Replied db log rows (max count 0) ∧
      List.Forall₂ (fun row v => read row = some v) rows data) ∧
    sent = log ++ [.query q.pageStatement, .query q.countStatement] := by
  obtain ⟨data', between, hdata, hrest⟩ := Session.exists_of_bind_ok h
  obtain ⟨value, between', hcount, hpure⟩ := Session.exists_of_bind_ok hrest
  obtain ⟨hpage, rfl⟩ := Session.eq_of_pure_ok hpure
  obtain ⟨rfl, rfl⟩ := Prod.mk.inj hpage
  obtain ⟨⟨rows, hrows, hread⟩, rfl⟩ := Database.reply_of_fetchAll hdata
  obtain ⟨⟨counts, hcounts, hvalue⟩, rfl⟩ := Database.reply_of_fetchFirst hcount
  refine ⟨⟨rows, ⟨hrows, counts, hcounts, ?_⟩, hread⟩, ?_⟩
  · rcases hvalue with ⟨rfl, rfl⟩ | ⟨row, rest, n, rfl, hn, rfl⟩
    · exact .inl ⟨rfl, rfl⟩
    · exact .inr ⟨n, rest, by rw [Row.eq_of_bigint? hn], rfl⟩
  · rw [List.append_assoc]
    rfl

/-- The commands that have been sent once a transaction is open. -/
def begun (e : SearchEngine) (log : Log) : Log := log ++ e.opening.map Database.Step.command

lemma begun_of_beginSnapshot {e : SearchEngine} {u : Unit}
    (h : (e.beginSnapshot db).run log = (.ok u, sent)) : sent = e.begun log := by
  cases hfault : db.fault log with
  | some fault =>
    have hnone := e.run_beginSnapshot_unconnected hfault pure
    rw [bind_pure, h] at hnone
    cases hnone
  | none =>
    have htakes : Session.Takes db log e.opening (e.beginSnapshot db) :=
      e.takes_beginSnapshot hfault
    rw [Session.Takes, h] at htakes
    exact Database.eq_of_perform_ok htakes.symm

end SearchEngine

/-! ## Entities of rows -/

lemma Cell.eq_of_nullable_text? {c : Cell} {t : Option String}
    (h : c.nullable? Cell.text? = some t) : c = .ofText? t := by
  cases c with
  | bigint n => cases h
  | _ =>
    cases h
    rfl

lemma Cell.eq_of_text? {c : Cell} {s : String} (h : c.text? = some s) : c = .text s := by
  cases c with
  | text s' =>
    cases h
    rfl
  | _ => cases h

lemma Cell.eq_of_bigint? {c : Cell} {n : Int} (h : c.bigint? = some n) : c = .bigint n := by
  cases c with
  | bigint m =>
    cases h
    rfl
  | _ => cases h

/-- The row of a dataset. -/
def Dataset.row (d : Dataset) : Row :=
  [.bigint d.id, .text d.name, .ofText? d.source, .text d.urn, .ofText? d.schema]

lemma Dataset.eq_row {row : Row} {d : Dataset} (h : ofRow? row = some d) : row = d.row := by
  unfold ofRow? at h
  split at h
  · next id name source urn schema =>
    obtain ⟨id', hid, h⟩ := Option.bind_eq_some_iff.mp h
    obtain ⟨name', hname, h⟩ := Option.bind_eq_some_iff.mp h
    obtain ⟨source', hsource, h⟩ := Option.bind_eq_some_iff.mp h
    obtain ⟨urn', hurn, h⟩ := Option.bind_eq_some_iff.mp h
    obtain ⟨schema', hschema, h⟩ := Option.bind_eq_some_iff.mp h
    cases h
    rw [Cell.eq_of_bigint? hid, Cell.eq_of_text? hname, Cell.eq_of_nullable_text? hsource,
      Cell.eq_of_text? hurn, Cell.eq_of_nullable_text? hschema]
    rfl
  · cases h

/-- An entity shows the row of a flow or job: its columns, and what is displayed of them. The
identifier of the job is not among its fields. -/
structure FlowJob.Shows (searchesJobs : Bool) (row : Row) (f : FlowJob) : Prop where
  row_eq : ∃ jobId : Cell, row = [.text f.appCode, .bigint f.flowId, .text f.flowName,
    .ofText? f.flowPath, .ofText? f.flowGroup, jobId, .ofText? f.jobName, .ofText? f.jobPath,
    .ofText? f.jobType]
  displayName_of_some : ∀ name ∈ f.jobName, Text.isBlank name = false → f.displayName = name
  displayName_of_blank : (∀ name ∈ f.jobName, Text.isBlank name = true) →
    f.displayName = f.flowName
  link_eq : f.link = "#/flows/" ++ f.appCode ++ "/" ++ f.flowGroup.getD "" ++ "/" ++
    toString f.flowId ++ "/page/1"
  path_eq : f.path = f.appCode ++ "/" ++ (if searchesJobs then f.jobPath else f.flowPath).getD ""

lemma FlowJobRow.shows_toFlowJob {row : Row} {r : FlowJobRow} (h : ofRow? row = some r)
    (searchesJobs : Bool) : FlowJob.Shows searchesJobs row (r.toFlowJob searchesJobs) := by
  refine ⟨?_, ?_, ?_, rfl, rfl⟩
  · unfold ofRow? at h
    split at h
    · next appCode flowId flowName flowPath flowGroup jobId jobName jobPath jobType =>
      obtain ⟨appCode', happCode, h⟩ := Option.bind_eq_some_iff.mp h
      obtain ⟨flowId', hflowId, h⟩ := Option.bind_eq_some_iff.mp h
      obtain ⟨flowName', hflowName, h⟩ := Option.bind_eq_some_iff.mp h
      obtain ⟨flowPath', hflowPath, h⟩ := Option.bind_eq_some_iff.mp h
      obtain ⟨flowGroup', hflowGroup, h⟩ := Option.bind_eq_some_iff.mp h
      obtain ⟨jobId', hjobId, h⟩ := Option.bind_eq_some_iff.mp h
      obtain ⟨jobName', hjobName, h⟩ := Option.bind_eq_some_iff.mp h
      obtain ⟨jobPath', hjobPath, h⟩ := Option.bind_eq_some_iff.mp h
      obtain ⟨jobType', hjobType, h⟩ := Option.bind_eq_some_iff.mp h
      cases h
      refine ⟨jobId, ?_⟩
      rw [Cell.eq_of_text? happCode, Cell.eq_of_bigint? hflowId, Cell.eq_of_text? hflowName,
        Cell.eq_of_nullable_text? hflowPath, Cell.eq_of_nullable_text? hflowGroup,
        Cell.eq_of_nullable_text? hjobName, Cell.eq_of_nullable_text? hjobPath,
        Cell.eq_of_nullable_text? hjobType]
      rfl
    · cases h
  · intro name hname hfilled
    have hjobName : r.jobName = some name := hname
    simp [toFlowJob, displayName, hjobName, hfilled]
  · intro hblank
    cases hjobName : r.jobName with
    | none => simp [toFlowJob, displayName, hjobName]
    | some name => simp [toFlowJob, displayName, hjobName, hblank name hjobName]

/-! ## Searches -/

/-- The query whose page a plan reads, and the commands sent before it, given those sent before the
plan is carried out. Without candidates there is none. -/
def DatasetPlan.reads? (db : Database) (log : Log) : DatasetPlan → Option (Log × Query)
  | structured q | freeText q => some (log, q)
  | narrowed candidates followUp =>
    let ids := candidates.repliedIds db log
    if ids.isEmpty then none
    else some (log ++ [.query candidates.idsStatement], followUp.query ids)

namespace SearchEngine

variable {e : SearchEngine} {db : Database} {log sent : Log} {w : PageWindow}

lemma replied_of_runFlows {f : FlowFilter} {p : ResultPage FlowJob}
    (h : (e.runFlows db f w).run log = (.ok p, sent)) :
    ∃ count data rows, p = (ResultPage.ofWindow count w data).flowJobs ∧
      (f.query w).Replied db (e.begun log) rows p.count ∧
      List.Forall₂ (FlowJob.Shows f.searchesJobs) rows p.data := by
  obtain ⟨u, between, hbegin, h⟩ := Session.exists_of_bind_ok h
  obtain rfl := begun_of_beginSnapshot hbegin
  obtain ⟨⟨count, data⟩, between, hpage, h⟩ := Session.exists_of_bind_ok h
  obtain ⟨u, between', -, h⟩ := Session.exists_of_bind_ok h
  obtain ⟨rfl, -⟩ := Session.eq_of_pure_ok h
  obtain ⟨⟨rows, hreplied, hread⟩, -⟩ := replied_of_fetchPage hpage
  refine ⟨count, _, rows, rfl, hreplied, List.forall₂_map_right_iff.mpr ?_⟩
  exact hread.imp fun row r hrow => FlowJobRow.shows_toFlowJob hrow f.searchesJobs

lemma replied_of_pageQuery {q : Query} {p : ResultPage Dataset}
    (h : (do
      let (count, data) ← fetchPage db Dataset.ofRow? q
      db.execute .commit
      return ResultPage.ofWindow count w data : Session (ResultPage Dataset)).run log =
        (.ok p, sent)) :
    ∃ count data, p = .ofWindow count w data ∧
      q.Replied db log (p.data.map Dataset.row) p.count := by
  obtain ⟨⟨count, data⟩, between, hpage, h⟩ := Session.exists_of_bind_ok h
  obtain ⟨u, between', -, h⟩ := Session.exists_of_bind_ok h
  obtain ⟨rfl, -⟩ := Session.eq_of_pure_ok h
  obtain ⟨⟨rows, hreplied, hread⟩, -⟩ := replied_of_fetchPage hpage
  have hrows : rows = data.map Dataset.row := by
    rw [← List.forall₂_eq_eq_eq, List.forall₂_map_right_iff]
    exact hread.imp fun row d hrow => Dataset.eq_row hrow
  exact ⟨count, data, rfl, hrows ▸ hreplied⟩

/-- What a page of a plan was replied: the page of the query read, or nothing without one. -/
lemma replied_of_runDatasets {plan : DatasetPlan} {p : ResultPage Dataset}
    (h : (e.runDatasets db plan w).run log = (.ok p, sent)) :
    ∃ count data, p = .ofWindow count w data ∧
      match plan.reads? db (e.begun log) with
      | none => p.count = 0 ∧ p.data = []
      | some (before, q) =>
        q.Replied db before (p.data.map Dataset.row) p.count := by
  obtain ⟨u, between, hbegin, h⟩ := Session.exists_of_bind_ok h
  obtain rfl := begun_of_beginSnapshot hbegin
  cases plan with
  | structured q =>
    exact replied_of_pageQuery h
  | freeText q =>
    exact replied_of_pageQuery h
  | narrowed candidates followUp =>
    obtain ⟨ids, between, hids, h⟩ := Session.exists_of_bind_ok h
    have hsent : between = e.begun log ++ [.query candidates.idsStatement] :=
      (Database.reply_of_fetchAll hids).2
    obtain rfl := eq_repliedIds hids
    cases hempty : (candidates.repliedIds db (e.begun log)).isEmpty with
    | true =>
      rw [hempty] at h
      obtain ⟨u, between', -, h⟩ := Session.exists_of_bind_ok h
      obtain ⟨rfl, -⟩ := Session.eq_of_pure_ok h
      refine ⟨0, [], rfl, ?_⟩
      rw [DatasetPlan.reads?, hempty]
      exact ⟨rfl, rfl⟩
    | false =>
      rw [hempty] at h
      rw [DatasetPlan.reads?, hempty, ← hsent]
      exact replied_of_pageQuery h

section Search

variable {options : Json} {seconds : Float} {st : ServiceState}

lemma run_of_observed_ok {α : Type} {search : SearchLabels} {session : Session (ResultPage α)}
    {p : ResultPage α} (h : ((observed search seconds session).run st).1 = .ok p) :
    session.run st.sent = (.ok p, (session.run st.sent).2) := by
  rw [(run_observed search seconds session st).1] at h
  exact Prod.ext h rfl

theorem replied_of_searchDatasets {f : DatasetFilter} {p : ResultPage Dataset}
    (hoptions : DatasetFilter.ofOptions? options = some f)
    (h : ((e.searchDatasets db options w seconds).run st).1 = .ok p) :
    ∃ count data, p = .ofWindow count w data ∧
      match (f.plan w e.ranking).reads? db (e.begun st.sent) with
      | none => p.count = 0 ∧ p.data = []
      | some (before, q) =>
        q.Replied db before (p.data.map Dataset.row) p.count := by
  rw [searchDatasets, hoptions] at h
  exact replied_of_runDatasets (run_of_observed_ok h)

theorem replied_of_searchFlows {f : FlowFilter} {p : ResultPage FlowJob}
    (hoptions : FlowFilter.ofOptions? options = some f)
    (h : ((e.searchFlows db options w seconds).run st).1 = .ok p) :
    ∃ count data rows, p = (ResultPage.ofWindow count w data).flowJobs ∧
      (f.query w).Replied db (e.begun st.sent) rows p.count ∧
      List.Forall₂ (FlowJob.Shows f.searchesJobs) rows p.data := by
  rw [searchFlows, hoptions] at h
  exact replied_of_runFlows (run_of_observed_ok h)

end Search

end SearchEngine

end FacetSearch
