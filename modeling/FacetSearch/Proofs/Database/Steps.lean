import FacetSearch.Proofs.Database.Session

/-!
# Steps of sessions

A session is a sequence of steps, each a command whose reply must be readable. It stops at the
first step that fails, whatever the database replies, and succeeds when no step does.
-/

namespace FacetSearch

namespace Database

/-- A command of a session, and which rows in its reply can be read. -/
structure Step where
  command : Command
  reads : List Row → Bool

variable (db : Database)

namespace Step

/-- A step whose rows do not matter. -/
def control (c : Command) : Step := ⟨c, fun _ => true⟩

/-- A query all of whose rows are read. -/
def queryAll {α : Type} (read : Row → Option α) (st : Statement) : Step :=
  ⟨.query st, fun rows => (rows.mapM read).isSome⟩

/-- A query whose first row is read, if there is one. -/
def queryFirst {α : Type} (read : Row → Option α) (st : Statement) : Step :=
  ⟨.query st, fun rows => rows.head?.all fun row => (read row).isSome⟩

end Step

/-- Why a step fails when it follows the commands of the log, if it does. -/
def Step.fault? (log : Log) (s : Step) : Option Fault :=
  match db.answer log s.command with
  | .refused code message => some (.server code message)
  | .rows rows => if s.reads rows then none else some .undecodable

/-- No step fails, each of them following the ones before it. -/
def Completes (log : Log) : List Step → Prop
  | [] => True
  | s :: steps => s.fault? db log = none ∧ Completes (log ++ [s.command]) steps

/-- How the steps end, and the commands sent until then. -/
def perform (log : Log) : List Step → Except Fault Unit × Log
  | [] => (.ok (), log)
  | s :: steps =>
    match s.fault? db log with
    | some fault => (.error fault, log ++ [s.command])
    | none => perform (log ++ [s.command]) steps

/-- A session that connects first and then takes these steps, the last of which commits: what it
gives, and what has been sent at its end. -/
structure Follows {α : Type} (log : Log) (steps : List Step) (result : Except Fault α)
    (sent : Log) : Prop where
  unconnected : ∀ fault ∈ db.fault log, result = .error (.pool fault) ∧ sent = log
  isPrefix : sent <+: log ++ steps.map Step.command
  succeeds_iff : result.isOk = true ↔ db.fault log = none ∧ db.Completes log steps
  complete : result.isOk = true → sent = log ++ steps.map Step.command
  stops : db.fault log = none → ∀ fault, result = .error fault →
    ∃ before step after, steps = before ++ step :: after ∧ db.Completes log before ∧
      step.fault? db (log ++ before.map Step.command) = some fault ∧
      sent = log ++ before.map Step.command ++ [step.command] ∧
      .commit ∉ before.map Step.command

variable {db} {log : Log} {s : Step} {steps steps' : List Step}

lemma perform_cons_of_fault {fault : Fault} (h : s.fault? db log = some fault) :
    db.perform log (s :: steps) = (.error fault, log ++ [s.command]) := by
  rw [perform, h]

lemma perform_cons_of_none (h : s.fault? db log = none) :
    db.perform log (s :: steps) = db.perform (log ++ [s.command]) steps := by
  rw [perform, h]

/-- Steps either complete or stop at the first that fails. -/
lemma perform_cases (db : Database) (log : Log) (steps : List Step) :
    (db.Completes log steps ∧
      db.perform log steps = (.ok (), log ++ steps.map Step.command)) ∨
    ∃ before step after fault, steps = before ++ step :: after ∧ db.Completes log before ∧
      step.fault? db (log ++ before.map Step.command) = some fault ∧
      db.perform log steps = (.error fault, log ++ before.map Step.command ++ [step.command]) := by
  -- Each step is judged after the commands before it, so the log varies in the induction.
  induction steps generalizing log with
  | nil =>
    left
    exact ⟨trivial, by rw [perform, List.map_nil, List.append_nil]⟩
  | cons s steps ih =>
    cases hs : s.fault? db log with
    | some fault =>
      right
      exact ⟨[], s, steps, fault, rfl, trivial, by simpa using hs,
        by simpa using perform_cons_of_fault hs⟩
    | none =>
      rw [perform_cons_of_none hs]
      rcases ih (log ++ [s.command]) with ⟨hall, hrun⟩ |
        ⟨before, t, after, fault, rfl, hbefore, ht, hrun⟩
      · left
        exact ⟨⟨hs, hall⟩, by simpa using hrun⟩
      · right
        exact ⟨s :: before, t, after, fault, rfl, ⟨hs, hbefore⟩, by simpa using ht,
          by simpa using hrun⟩

lemma Completes.fault?_eq_none {before after : List Step}
    (h : db.Completes log (before ++ s :: after)) :
    s.fault? db (log ++ before.map Step.command) = none := by
  induction before generalizing log with
  | nil => simpa using h.1
  | cons t before ih => simpa using ih h.2

lemma perform_append_of_ok {sent : Log} (h : db.perform log steps = (.ok (), sent)) :
    db.perform log (steps ++ steps') = db.perform sent steps' := by
  induction steps generalizing log with
  | nil =>
    cases h
    rfl
  | cons s steps ih =>
    cases hs : s.fault? db log with
    | some fault =>
      rw [perform_cons_of_fault hs] at h
      cases h
    | none =>
      rw [perform_cons_of_none hs] at h
      rw [List.cons_append, perform_cons_of_none hs]
      exact ih h

lemma perform_append_of_error {fault : Fault} {sent : Log}
    (h : db.perform log steps = (.error fault, sent)) :
    db.perform log (steps ++ steps') = (.error fault, sent) := by
  induction steps generalizing log with
  | nil => cases h
  | cons s steps ih =>
    cases hs : s.fault? db log with
    | some fault' =>
      rw [perform_cons_of_fault hs] at h
      rw [List.cons_append, perform_cons_of_fault hs]
      exact h
    | none =>
      rw [perform_cons_of_none hs] at h
      rw [List.cons_append, perform_cons_of_none hs]
      exact ih h

lemma eq_of_perform_ok {sent : Log} (h : db.perform log steps = (.ok (), sent)) :
    sent = log ++ steps.map Step.command := by
  rcases db.perform_cases log steps with ⟨-, hperform⟩ | ⟨_, _, _, _, -, -, -, hperform⟩ <;>
    rw [h] at hperform
  · exact (Prod.mk.inj hperform).2
  · cases hperform

section Follows

variable {α : Type}

lemma follows_of_unconnected {fault : PoolFault} (h : db.fault log = some fault) :
    db.Follows log steps (.error (.pool fault) : Except Fault α) log where
  unconnected fault' hfault' := by
    rw [h] at hfault'
    cases hfault'
    exact ⟨rfl, rfl⟩
  isPrefix := List.prefix_append _ _
  succeeds_iff := by
    constructor
    · intro hok
      cases hok
    · rintro ⟨hconnected, -⟩
      rw [h] at hconnected
      cases hconnected
  complete hok := nomatch hok
  stops hconnected := by
    rw [h] at hconnected
    cases hconnected

lemma follows_of_completes (hconnected : db.fault log = none) (h : db.Completes log steps) (a : α) :
    db.Follows log steps (.ok a) (log ++ steps.map Step.command) where
  unconnected fault hfault := by
    rw [hconnected] at hfault
    cases hfault
  isPrefix := List.prefix_rfl
  succeeds_iff := ⟨fun _ => ⟨hconnected, h⟩, fun _ => rfl⟩
  complete _ := rfl
  stops _ fault hfault := nomatch hfault

lemma follows_of_fault (hconnected : db.fault log = none) {before after : List Step} {fault : Fault}
    (hbefore : db.Completes log before)
    (hfault : s.fault? db (log ++ before.map Step.command) = some fault)
    (hcommit : .commit ∉ before.map Step.command) :
    db.Follows log (before ++ s :: after) (.error fault : Except Fault α)
      (log ++ before.map Step.command ++ [s.command]) where
  unconnected fault' hfault' := by
    rw [hconnected] at hfault'
    cases hfault'
  isPrefix := by
    rw [List.map_append, List.map_cons, List.append_assoc, List.prefix_append_right_inj,
      List.prefix_append_right_inj]
    exact ⟨after.map Step.command, rfl⟩
  succeeds_iff := by
    constructor
    · intro hok
      cases hok
    · rintro ⟨-, hall⟩
      rw [hall.fault?_eq_none] at hfault
      cases hfault
  complete hok := nomatch hok
  stops _ fault' hfault' := by
    obtain rfl := Except.error.inj hfault'
    exact ⟨before, s, after, rfl, hbefore, hfault, rfl, hcommit⟩

end Follows

end Database

namespace Session

open Database

variable {α β : Type} {db : Database} {log sent : Log} {x : Session α} {steps steps' : List Step}

lemma run_bind_error {fault : Fault} (h : x.run log = (.error fault, sent))
    (f : α → Session β) : (x >>= f).run log = (.error fault, sent) := by
  have hx : x log = (.error fault, sent) := h
  simp only [bind, ExceptT.bind, ExceptT.mk, ExceptT.run, StateT.bind, hx]
  rfl

lemma run_tryCatch_ok {a : α} (h : x.run log = (.ok a, sent)) (handle : Fault → Session α) :
    (tryCatch x handle).run log = (.ok a, sent) := by
  have hx : x log = (.ok a, sent) := h
  simp only [tryCatch, tryCatchThe, MonadExceptOf.tryCatch, ExceptT.tryCatch, ExceptT.mk,
    ExceptT.run, bind, StateT.bind, hx]
  rfl

lemma run_tryCatch_error {fault : Fault} (h : x.run log = (.error fault, sent))
    (handle : Fault → Session α) :
    (tryCatch x handle).run log = (handle fault).run sent := by
  have hx : x log = (.error fault, sent) := h
  simp only [tryCatch, tryCatchThe, MonadExceptOf.tryCatch, ExceptT.tryCatch, ExceptT.mk,
    ExceptT.run, bind, StateT.bind, hx]

/-- A session ends as the steps do when they are performed. -/
def Takes (db : Database) (log : Log) (steps : List Step) (x : Session α) : Prop :=
  ((x.run log).1.map fun _ => (), (x.run log).2) = db.perform log steps

lemma takes_pure (a : α) : Takes db log [] (pure a : Session α) := rfl

/-- A session goes on with the steps that its value calls for. -/
lemma Takes.bind {f : α → Session β} (hx : Takes db log steps x)
    (hf : ∀ a, x.run log = (.ok a, log ++ steps.map Step.command) →
      Takes db (log ++ steps.map Step.command) steps' (f a)) :
    Takes db log (steps ++ steps') (x >>= f) := by
  rcases hrun : x.run log with ⟨fault | a, sent⟩
  · have hperform : db.perform log steps = (.error fault, sent) := by
      rw [← hx, hrun]
      rfl
    rw [Takes, run_bind_error hrun, perform_append_of_error hperform]
    rfl
  · have hperform : db.perform log steps = (.ok (), sent) := by
      rw [← hx, hrun]
      rfl
    obtain rfl := eq_of_perform_ok hperform
    rw [Takes, run_bind_ok hrun, perform_append_of_ok hperform]
    exact hf a hrun

lemma run_send_refused {c : Command} {code message : String}
    (h : db.answer log c = .refused code message) :
    (db.send c).run log = (.error (.server code message), log ++ [c]) := by
  simp only [send, ExceptT.run_mk, h]

/-- Sending a command and reading its rows is one step, which fails where the rows cannot be
read. -/
lemma takes_send {s : Step} {read : List Row → Session α}
    (hread : ∀ rows sent, (((read rows).run sent).1.map fun _ => (), ((read rows).run sent).2) =
      (if s.reads rows then .ok () else .error .undecodable, sent)) :
    Takes db log [s] (db.send s.command >>= read) := by
  cases hanswer : db.answer log s.command with
  | refused code message =>
    have hfault : s.fault? db log = some (.server code message) := by rw [Step.fault?, hanswer]
    rw [Takes, run_bind_error (run_send_refused hanswer), perform_cons_of_fault hfault]
    rfl
  | rows rows =>
    rw [Takes, run_bind_ok (run_send hanswer), hread]
    by_cases h : s.reads rows = true
    · have hfault : s.fault? db log = none := by rw [Step.fault?, hanswer]; exact if_pos h
      rw [if_pos h, perform_cons_of_none hfault]
      rfl
    · have hfault : s.fault? db log = some .undecodable := by
        rw [Step.fault?, hanswer]
        exact if_neg h
      rw [if_neg h, perform_cons_of_fault hfault]

lemma takes_execute (c : Command) : Takes db log [.control c] (db.execute c) :=
  takes_send fun _ _ => rfl

lemma takes_fetchAll (read : Row → Option α) (st : Statement) :
    Takes db log [.queryAll read st] (db.fetchAll read st) := by
  refine takes_send fun rows sent => ?_
  cases h : rows.mapM read with
  | none =>
    simp only [Step.queryAll, h]
    rfl
  | some values =>
    simp only [Step.queryAll, h]
    rfl

lemma takes_fetchFirst (read : Row → Option α) (st : Statement) :
    Takes db log [.queryFirst read st] (db.fetchFirst read st) := by
  refine takes_send fun rows sent => ?_
  cases hrow : rows.head? with
  | none =>
    simp only [Step.queryFirst, hrow]
    rfl
  | some row =>
    cases h : read row with
    | none =>
      simp only [Step.queryFirst, hrow, Option.all_some, h]
      rfl
    | some value =>
      simp only [Step.queryFirst, hrow, Option.all_some, h]
      rfl

/-- A session that takes steps, of which only the last may commit, follows them. -/
lemma Takes.follows (h : Takes db log steps x) (hconnected : db.fault log = none)
    (hcommit : .commit ∉ steps.dropLast.map Step.command) :
    db.Follows log steps (x.run log).1 (x.run log).2 := by
  rcases hrun : x.run log with ⟨result, sent⟩
  rw [Takes, hrun] at h
  rcases db.perform_cases log steps with ⟨hall, hperform⟩ |
    ⟨before, step, after, fault, hsteps, hbefore, hfault, hperform⟩
  · rw [hperform] at h
    obtain ⟨hresult, rfl⟩ := Prod.mk.inj h
    cases result with
    | error fault => cases hresult
    | ok a => exact follows_of_completes hconnected hall a
  · rw [hperform] at h
    obtain ⟨hresult, rfl⟩ := Prod.mk.inj h
    cases result with
    | ok a => cases hresult
    | error fault' =>
      obtain rfl := Except.error.inj hresult
      subst hsteps
      rw [List.dropLast_append_of_ne_nil (List.cons_ne_nil step after), List.map_append] at hcommit
      exact follows_of_fault hconnected hbefore hfault fun hmem =>
        hcommit (List.mem_append_left _ hmem)

end Session

end FacetSearch
