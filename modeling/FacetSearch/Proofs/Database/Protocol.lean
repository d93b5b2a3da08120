import FacetSearch.Proofs.Database.Observation
import FacetSearch.Proofs.Database.Steps

/-!
# The protocol of searches

The commands that a search sends. It begins a transaction over one snapshot, reads in it what its
plan says, and commits.
-/

namespace FacetSearch

open Database

/-- The page of a query and the number of all its rows. -/
def Query.pageSteps {α : Type} (read : Row → Option α) (q : Query) : List Step :=
  [.queryAll read q.pageStatement, .queryFirst Row.bigint? q.countStatement]

/-- The identifiers that the database replies after the commands of the log. -/
def Query.repliedIds (db : Database) (log : Log) (q : Query) : List Int :=
  match db.answer log (.query q.idsStatement) with
  | .rows rows => (rows.mapM Row.bigint?).getD []
  | .refused _ _ => []

/-- What a plan reads. Only candidates that have been found are followed up. -/
def DatasetPlan.steps (db : Database) (log : Log) : DatasetPlan → List Step
  | structured q | freeText q => q.pageSteps Dataset.ofRow?
  | narrowed candidates followUp =>
    let ids := candidates.repliedIds db log
    .queryAll Row.bigint? candidates.idsStatement ::
      if ids.isEmpty then [] else (followUp.query ids).pageSteps Dataset.ofRow?

namespace SearchEngine

/-- The beginning of a transaction. -/
def opening (e : SearchEngine) : List Step :=
  [.control .begin, .control .snapshot] ++
    if 0 < e.timeoutMilliseconds then [.control (.limitTime e.timeoutMilliseconds)] else []

/-- A transaction that reads what `steps` say, given the commands sent before they are taken. -/
def transaction (e : SearchEngine) (log : Log) (steps : Log → List Step) : List Step :=
  e.opening ++ (steps (log ++ e.opening.map Step.command) ++ [.control .commit])

section Takes

open Session

variable {α : Type} {db : Database} {log : Log}

lemma takes_beginSnapshot (e : SearchEngine) (hconnected : db.fault log = none) :
    Takes db log e.opening (e.beginSnapshot db) := by
  have hlimit (sent : Log) : Takes db sent
      (if 0 < e.timeoutMilliseconds then [.control (.limitTime e.timeoutMilliseconds)] else [])
      (if 0 < e.timeoutMilliseconds then db.execute (.limitTime e.timeoutMilliseconds)
        else pure ()) := by
    by_cases h : 0 < e.timeoutMilliseconds
    · rw [if_pos h, if_pos h]
      exact takes_execute _
    · rw [if_neg h, if_neg h]
      exact takes_pure ()
  rw [Takes, beginSnapshot, run_bind_ok (run_connect hconnected)]
  exact (takes_execute .begin).bind fun _ _ => (takes_execute .snapshot).bind fun _ _ => hlimit _

lemma takes_fetchPage (read : Row → Option α) (q : Query) :
    Takes db log (q.pageSteps read) (fetchPage db read q) := by
  refine (takes_fetchAll read q.pageStatement).bind fun data _ => ?_
  exact (takes_fetchFirst Row.bigint? q.countStatement).bind fun count _ => takes_pure _

lemma takes_commit (a : α) :
    Takes db log [.control .commit] (do db.execute .commit; return a) :=
  (takes_execute .commit).bind fun _ _ => takes_pure a

/-- The identifiers that are read are those replied. -/
lemma eq_repliedIds {q : Query} {ids : List Int} {sent : Log}
    (h : (db.fetchAll Row.bigint? q.idsStatement).run log = (.ok ids, sent)) :
    ids = q.repliedIds db log := by
  cases hanswer : db.answer log (.query q.idsStatement) with
  | refused code message =>
    rw [fetchAll, run_bind_error (run_send_refused hanswer)] at h
    cases h
  | rows rows =>
    rw [fetchAll, run_bind_ok (run_send hanswer)] at h
    have hids : q.repliedIds db log = (rows.mapM Row.bigint?).getD [] := by
      rw [Query.repliedIds, hanswer]
    cases hread : rows.mapM Row.bigint? with
    | none =>
      rw [hread] at h
      cases h
    | some values =>
      rw [hread] at h
      cases h
      rw [hids, hread]
      rfl

lemma takes_runDatasets (e : SearchEngine) (hconnected : db.fault log = none) (plan : DatasetPlan)
    (w : PageWindow) :
    Takes db log (e.transaction log fun sent => plan.steps db sent)
      (e.runDatasets db plan w) := by
  refine (takes_beginSnapshot e hconnected).bind fun _ _ => ?_
  cases plan with
  | structured q => exact (takes_fetchPage Dataset.ofRow? q).bind fun _ _ => takes_commit _
  | freeText q => exact (takes_fetchPage Dataset.ofRow? q).bind fun _ _ => takes_commit _
  | narrowed candidates followUp =>
    -- The plan names the candidates by the reply, the session by what it has read of it.
    refine (takes_fetchAll Row.bigint? candidates.idsStatement).bind fun ids hids => ?_
    obtain rfl := eq_repliedIds hids
    cases h : (candidates.repliedIds db (log ++ e.opening.map Step.command)).isEmpty with
    | true =>
      simp only [if_true]
      exact takes_commit _
    | false =>
      exact (takes_fetchPage Dataset.ofRow? _).bind fun _ _ => takes_commit _

lemma takes_runFlows (e : SearchEngine) (hconnected : db.fault log = none) (f : FlowFilter)
    (w : PageWindow) :
    Takes db log (e.transaction log fun _ => (f.query w).pageSteps FlowJobRow.ofRow?)
      (e.runFlows db f w) := by
  refine (takes_beginSnapshot e hconnected).bind fun _ _ => ?_
  exact (takes_fetchPage FlowJobRow.ofRow? (f.query w)).bind fun _ _ => takes_commit _

end Takes

section Follows

variable {α : Type} {db : Database}

lemma commit_notMem_opening (e : SearchEngine) : .commit ∉ e.opening.map Step.command := by
  rw [opening]
  split <;> simp [Step.control]

lemma commit_notMem_pageSteps (read : Row → Option α) (q : Query) :
    .commit ∉ (q.pageSteps read).map Step.command := by
  simp [Query.pageSteps, Step.queryAll, Step.queryFirst]

lemma commit_notMem_steps (db : Database) (log : Log) (plan : DatasetPlan) :
    .commit ∉ (plan.steps db log).map Step.command := by
  cases plan with
  | structured q => exact commit_notMem_pageSteps Dataset.ofRow? q
  | freeText q => exact commit_notMem_pageSteps Dataset.ofRow? q
  | narrowed candidates followUp =>
    rw [DatasetPlan.steps, List.map_cons, List.mem_cons]
    rintro (hmem | hmem)
    · cases hmem
    · split at hmem
      · cases hmem
      · exact commit_notMem_pageSteps Dataset.ofRow? _ hmem

/-- Only the last step of a transaction commits. -/
lemma commit_notMem_dropLast (e : SearchEngine) {log : Log} {steps : Log → List Step}
    (h : ∀ sent, .commit ∉ (steps sent).map Step.command) :
    .commit ∉ (e.transaction log steps).dropLast.map Step.command := by
  rw [transaction, ← List.append_assoc, List.dropLast_concat, List.map_append, List.mem_append]
  rintro (hmem | hmem)
  · exact e.commit_notMem_opening hmem
  · exact h _ hmem

/-- Without a connection nothing is sent. -/
lemma run_beginSnapshot_unconnected (e : SearchEngine) {log : Log} {fault : PoolFault}
    (h : db.fault log = some fault) (f : Unit → Session α) :
    (e.beginSnapshot db >>= f).run log = (.error (.pool fault), log) :=
  Session.run_bind_error (Session.run_bind_error (run_connect_of_fault h) _) f

lemma follows_of_takes (e : SearchEngine) (db : Database) (log : Log) {steps : Log → List Step}
    {f : Unit → Session α} (hcommit : ∀ sent, .commit ∉ (steps sent).map Step.command)
    (h : db.fault log = none →
      Session.Takes db log (e.transaction log steps) (e.beginSnapshot db >>= f)) :
    db.Follows log (e.transaction log steps) ((e.beginSnapshot db >>= f).run log).1
      ((e.beginSnapshot db >>= f).run log).2 := by
  cases hfault : db.fault log with
  | some fault =>
    rw [run_beginSnapshot_unconnected e hfault]
    exact follows_of_unconnected hfault
  | none => exact (h hfault).follows hfault (e.commit_notMem_dropLast hcommit)

/-- Recording the end of a session sends nothing. -/
lemma run_observed (search : SearchLabels) (seconds : Float) (session : Session (ResultPage α))
    (st : ServiceState) :
    ((observed search seconds session).run st).1 = (session.run st.sent).1 ∧
      ((observed search seconds session).run st).2.sent = (session.run st.sent).2 := by
  rcases hrun : session.run st.sent with ⟨fault | page, sent⟩
  · rw [run_observed_error hrun]
    exact ⟨rfl, rfl⟩
  · rw [run_observed_ok hrun]
    exact ⟨rfl, rfl⟩

lemma follows_observed {steps : List Step} {session : Session (ResultPage α)} {st : ServiceState}
    (h : db.Follows st.sent steps (session.run st.sent).1 (session.run st.sent).2)
    (search : SearchLabels) (seconds : Float) :
    db.Follows st.sent steps ((observed search seconds session).run st).1
      ((observed search seconds session).run st).2.sent := by
  obtain ⟨hresult, hsent⟩ := run_observed search seconds session st
  rw [hresult, hsent]
  exact h

lemma follows_searchDatasets (e : SearchEngine) (db : Database) {options : Json}
    {f : DatasetFilter} (h : DatasetFilter.ofOptions? options = some f) (w : PageWindow)
    (seconds : Float) (st : ServiceState) :
    db.Follows st.sent (e.transaction st.sent fun sent => (f.plan w e.ranking).steps db sent)
      ((e.searchDatasets db options w seconds).run st).1
      ((e.searchDatasets db options w seconds).run st).2.sent := by
  have hsession := e.follows_of_takes db st.sent
    (fun sent => commit_notMem_steps db sent (f.plan w e.ranking))
    fun hconnected => e.takes_runDatasets hconnected (f.plan w e.ranking) w
  rw [searchDatasets, h]
  exact follows_observed hsession _ seconds

lemma follows_searchFlows (e : SearchEngine) (db : Database) {options : Json} {f : FlowFilter}
    (h : FlowFilter.ofOptions? options = some f) (w : PageWindow) (seconds : Float)
    (st : ServiceState) :
    db.Follows st.sent (e.transaction st.sent fun _ => (f.query w).pageSteps FlowJobRow.ofRow?)
      ((e.searchFlows db options w seconds).run st).1
      ((e.searchFlows db options w seconds).run st).2.sent := by
  have hsession := e.follows_of_takes db st.sent
    (fun _ => commit_notMem_pageSteps FlowJobRow.ofRow? (f.query w))
    fun hconnected => e.takes_runFlows hconnected f w
  rw [searchFlows, h]
  exact follows_observed hsession _ seconds

end Follows

/-- A search sends the commands of its transaction up to the first one that the database refuses or
whose rows cannot be read. It gives that fault, without having committed, and succeeds exactly when
none of the commands fails, the last being to commit. The plan of a narrowed search binds the
candidates replied, as they are, before everything else. For options that are not an object nothing
is sent, and there is nothing found. -/
theorem searches_follow_protocol (e : SearchEngine) (db : Database) (options : Json)
    (w : PageWindow) (seconds : Float) (st : ServiceState) :
    (match options with
      | .object members =>
        let plan := (DatasetFilter.ofMembers (.object members)).plan w e.ranking
        db.Follows st.sent (e.transaction st.sent fun sent => plan.steps db sent)
          ((e.searchDatasets db options w seconds).run st).1
          ((e.searchDatasets db options w seconds).run st).2.sent
      | _ =>
        ((e.searchDatasets db options w seconds).run st).1 = .ok (.empty w) ∧
          ((e.searchDatasets db options w seconds).run st).2.sent = st.sent) ∧
    (match options with
      | .object members =>
        let q := (FlowFilter.ofMembers (.object members)).query w
        db.Follows st.sent (e.transaction st.sent fun _ => q.pageSteps FlowJobRow.ofRow?)
          ((e.searchFlows db options w seconds).run st).1
          ((e.searchFlows db options w seconds).run st).2.sent
      | _ =>
        ((e.searchFlows db options w seconds).run st).1 = .ok (ResultPage.empty w).flowJobs ∧
          ((e.searchFlows db options w seconds).run st).2.sent = st.sent) ∧
    e.opening.map (fun s => s.command.statement) =
      [⟨"BEGIN", []⟩, ⟨"SET TRANSACTION ISOLATION LEVEL REPEATABLE READ, READ ONLY", []⟩] ++
        (if 0 < e.timeoutMilliseconds then
          [⟨"SELECT set_config('statement_timeout', $1, true)",
            [.text (toString e.timeoutMilliseconds ++ "ms")]⟩]
        else []) ∧
    ∀ (followUp : FollowUp) (ids : List Int),
      (followUp.query ids).pageStatement.binds.head? = some (.bigintArray ids) ∧
        (followUp.query ids).countStatement.binds.head? = some (.bigintArray ids) := by
  refine ⟨?_, ?_, ?_, ?_⟩
  · cases options with
    | object members => exact follows_searchDatasets e db rfl w seconds st
    | _ => exact ⟨rfl, rfl⟩
  · cases options with
    | object members => exact follows_searchFlows e db rfl w seconds st
    | _ => exact ⟨rfl, rfl⟩
  · rw [opening, List.map_append]
    split <;> rfl
  · intro followUp ids
    exact ⟨rfl, rfl⟩

end SearchEngine

end FacetSearch
