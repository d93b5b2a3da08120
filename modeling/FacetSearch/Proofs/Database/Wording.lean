import FacetSearch.Lookup
import FacetSearch.Proofs.Database.Steps

/-!
# The wording of errors

Two databases reply alike but for the texts of their errors. Every session of a search or a lookup
sends both of them the same commands and ends in the same way: with the same value, or with faults
that differ at most in a text. A lookup that is tried again has seen no more than the code of an
error.
-/

namespace FacetSearch

inductive Fault.SameButMessage : Fault → Fault → Prop where
  | same (fault : Fault) : SameButMessage fault fault
  | server (code message message' : String) :
    SameButMessage (.server code message) (.server code message')

inductive Reply.SameButMessage : Reply → Reply → Prop where
  | rows (rows : List Row) : SameButMessage (.rows rows) (.rows rows)
  | refused (code message message' : String) :
    SameButMessage (.refused code message) (.refused code message')

/-- The databases differ at most in the texts of errors. -/
structure Database.SameButMessages (db db' : Database) : Prop where
  fault : db.fault = db'.fault
  answer : ∀ log c, (db.answer log c).SameButMessage (db'.answer log c)

namespace Session

variable {α β : Type}

/-- The same value, or faults that differ at most in a text. -/
inductive SameResult : Except Fault α → Except Fault α → Prop where
  | ok (a : α) : SameResult (.ok a) (.ok a)
  | error {fault fault' : Fault} (h : fault.SameButMessage fault') :
    SameResult (.error fault) (.error fault')

/-- From the same commands sent before, the sessions send the same and end alike. -/
def Alike (x x' : Session α) : Prop :=
  ∀ log, SameResult (x.run log).1 (x'.run log).1 ∧ (x.run log).2 = (x'.run log).2

namespace Alike

variable {x x' : Session α}

lemma pure (a : α) : Alike (pure a) (pure a) := fun _ => ⟨.ok a, rfl⟩

lemma throw {fault fault' : Fault} (h : fault.SameButMessage fault') :
    Alike (throw fault : Session α) (throw fault') := fun _ => ⟨.error h, rfl⟩

lemma cases (h : Alike x x') (log : Log) :
    (∃ a sent, x.run log = (.ok a, sent) ∧ x'.run log = (.ok a, sent)) ∨
      ∃ fault fault' sent, fault.SameButMessage fault' ∧ x.run log = (.error fault, sent) ∧
        x'.run log = (.error fault', sent) := by
  obtain ⟨hresult, hsent⟩ := h log
  rcases hrun : x.run log with ⟨result, sent⟩
  rcases hrun' : x'.run log with ⟨result', sent'⟩
  rw [hrun, hrun'] at hresult hsent
  obtain rfl : sent = sent' := hsent
  cases hresult with
  | ok a => exact .inl ⟨a, sent, rfl, rfl⟩
  | error hfault => exact .inr ⟨_, _, sent, hfault, rfl, rfl⟩

lemma bind {f f' : α → Session β} (hx : Alike x x') (hf : ∀ a, Alike (f a) (f' a)) :
    Alike (x >>= f) (x' >>= f') := by
  intro log
  rcases hx.cases log with ⟨a, sent, hrun, hrun'⟩ | ⟨fault, fault', sent, hfault, hrun, hrun'⟩
  · rw [run_bind_ok hrun, run_bind_ok hrun']
    exact hf a sent
  · rw [run_bind_error hrun, run_bind_error hrun']
    exact ⟨.error hfault, rfl⟩

lemma tryCatch {handle handle' : Fault → Session α} (hx : Alike x x')
    (hhandle : ∀ {fault fault' : Fault}, fault.SameButMessage fault' →
      Alike (handle fault) (handle' fault')) :
    Alike (tryCatch x handle) (tryCatch x' handle') := by
  intro log
  rcases hx.cases log with ⟨a, sent, hrun, hrun'⟩ | ⟨fault, fault', sent, hfault, hrun, hrun'⟩
  · rw [run_tryCatch_ok hrun, run_tryCatch_ok hrun']
    exact ⟨.ok a, rfl⟩
  · rw [run_tryCatch_error hrun, run_tryCatch_error hrun']
    exact hhandle hfault sent

end Alike

end Session

namespace Database.SameButMessages

open Session

variable {α : Type} {db db' : Database}

lemma refl (db : Database) : db.SameButMessages db where
  fault := rfl
  answer log c := by
    cases db.answer log c with
    | rows rows => exact .rows rows
    | refused code message => exact .refused code message message

lemma connect (h : db.SameButMessages db') : Alike db.connect db'.connect := by
  intro log
  cases hfault : db.fault log with
  | none =>
    rw [run_connect hfault, run_connect (h.fault ▸ hfault)]
    exact ⟨.ok (), rfl⟩
  | some fault =>
    rw [run_connect_of_fault hfault, run_connect_of_fault (h.fault ▸ hfault)]
    exact ⟨.error (.same _), rfl⟩

lemma send (h : db.SameButMessages db') (c : Command) : Alike (db.send c) (db'.send c) := by
  intro log
  have hreply := h.answer log c
  generalize hanswer : db.answer log c = reply at hreply
  generalize hanswer' : db'.answer log c = reply' at hreply
  cases hreply with
  | rows rows =>
    rw [run_send hanswer, run_send hanswer']
    exact ⟨.ok rows, rfl⟩
  | refused code message message' =>
    rw [run_send_refused hanswer, run_send_refused hanswer']
    exact ⟨.error (.server code message message'), rfl⟩

lemma execute (h : db.SameButMessages db') (c : Command) :
    Alike (db.execute c) (db'.execute c) :=
  (h.send c).bind fun _ => .pure ()

lemma fetchAll (h : db.SameButMessages db') (read : Row → Option α) (s : Statement) :
    Alike (db.fetchAll read s) (db'.fetchAll read s) := by
  apply (h.send _).bind
  intro rows
  cases rows.mapM read with
  | some values => exact .pure values
  | none => exact .throw (.same _)

lemma fetchFirst (h : db.SameButMessages db') (read : Row → Option α) (s : Statement) :
    Alike (db.fetchFirst read s) (db'.fetchFirst read s) := by
  apply (h.send _).bind
  intro rows
  cases rows.head? with
  | none => exact .pure none
  | some row =>
    simp only
    cases read row with
    | some value => exact .pure (some value)
    | none => exact .throw (.same _)

/-! ## Searches -/

lemma beginSnapshot (h : db.SameButMessages db') (e : SearchEngine) :
    Alike (e.beginSnapshot db) (e.beginSnapshot db') := by
  apply h.connect.bind
  intro _
  apply (h.execute _).bind
  intro _
  apply (h.execute _).bind
  intro _
  by_cases htime : 0 < e.timeoutMilliseconds
  · rw [if_pos htime, if_pos htime]
    exact h.execute _
  · rw [if_neg htime, if_neg htime]
    exact .pure ()

lemma fetchPage (h : db.SameButMessages db') (read : Row → Option α) (q : Query) :
    Alike (SearchEngine.fetchPage db read q) (SearchEngine.fetchPage db' read q) :=
  (h.fetchAll _ _).bind fun _ => (h.fetchFirst _ _).bind fun _ => .pure _

lemma commit (h : db.SameButMessages db') (a : α) :
    Alike (do db.execute .commit; return a) (do db'.execute .commit; return a) :=
  (h.execute _).bind fun _ => .pure a

lemma runDatasets (h : db.SameButMessages db') (e : SearchEngine) (plan : DatasetPlan)
    (w : PageWindow) : Alike (e.runDatasets db plan w) (e.runDatasets db' plan w) := by
  apply (h.beginSnapshot e).bind
  intro _
  cases plan with
  | structured q => exact (h.fetchPage _ q).bind fun _ => h.commit _
  | freeText q => exact (h.fetchPage _ q).bind fun _ => h.commit _
  | narrowed candidates followUp =>
    apply (h.fetchAll _ _).bind
    intro ids
    by_cases hnone : ids.isEmpty = true
    · rw [if_pos hnone, if_pos hnone]
      exact h.commit _
    · rw [if_neg hnone, if_neg hnone]
      exact (h.fetchPage _ _).bind fun _ => h.commit _

lemma runFlows (h : db.SameButMessages db') (e : SearchEngine) (f : FlowFilter)
    (w : PageWindow) : Alike (e.runFlows db f w) (e.runFlows db' f w) :=
  (h.beginSnapshot e).bind fun _ => (h.fetchPage _ _).bind fun _ => h.commit _

/-! ## Lookups -/

lemma list (h : db.SameButMessages db') (s : Statement) :
    Alike (Lookup.list db s) (Lookup.list db' s) :=
  h.connect.bind fun _ => h.fetchAll _ _

lemma listFields (h : db.SameButMessages db') (valid : String → Bool) (terms : List String) :
    Alike (Lookup.listFields valid db terms) (Lookup.listFields valid db' terms) := by
  unfold Lookup.listFields
  by_cases hnone : terms.isEmpty = true
  · rw [if_pos hnone, if_pos hnone]
    exact h.list _
  · rw [if_neg hnone, if_neg hnone]
    apply (h.list _).tryCatch
    intro fault fault' hfault
    -- Whether to try again is decided by the code, which both faults share.
    have hserver (code message message' : String) :
        Alike (if code = Lookup.invalidPatternCode then
            Lookup.list db (Lookup.fieldsStatement (terms.map Pattern.literal))
          else throw (.server code message))
          (if code = Lookup.invalidPatternCode then
            Lookup.list db' (Lookup.fieldsStatement (terms.map Pattern.literal))
          else throw (.server code message')) := by
      by_cases hcode : code = Lookup.invalidPatternCode
      · rw [if_pos hcode, if_pos hcode]
        exact h.list _
      · rw [if_neg hcode, if_neg hcode]
        exact .throw (.server code message message')
    cases hfault with
    | server code message message' => exact hserver code message message'
    | same =>
      cases fault with
      | server code message => exact hserver code message message
      | _ => exact .throw (.same _)

lemma lookup (h : db.SameButMessages db') (valid : String → Bool) (l : Lookup) :
    Alike (l.run valid db) (l.run valid db') := by
  cases l with
  | fields among => exact h.listFields valid _
  | _ => exact h.list _

end Database.SameButMessages

end FacetSearch
