import FacetSearch.Database.Script
import FacetSearch.Lookup
import FacetSearch.Proofs.Database.Steps
import FacetSearch.Proofs.Text.Separators

/-!
# The protocol of lookups

A lookup sends one statement, outside of any transaction, and gives what is replied to it. Only the
field names of tables are asked for a second time, with every pattern made literal, when the server
does not accept the patterns. The argument of a lookup counts for nothing but its items.
-/

namespace FacetSearch

/-- The reply is an error with this code. -/
def Reply.hasCode (code : String) : Reply → Bool
  | refused given _ => given = code
  | rows _ => false

namespace Database

/-- The values in the reply to a statement that is sent after the commands of the log. -/
def listed (db : Database) (log : Log) (st : Statement) : Except Fault (List String) :=
  match db.answer log (.query st) with
  | .refused code message => .error (.server code message)
  | .rows rows => (rows.mapM Row.text?).elim (.error .undecodable) .ok

variable {db : Database} {log : Log} {st : Statement}

lemma listed_of_refused {code message : String}
    (h : db.answer log (.query st) = .refused code message) :
    db.listed log st = .error (.server code message) := by
  rw [listed, h]

lemma listed_of_rows {rows : List Row} (h : db.answer log (.query st) = .rows rows) :
    db.listed log st = (rows.mapM Row.text?).elim (.error .undecodable) .ok := by
  rw [listed, h]

end Database

namespace Lookup

variable {valid : String → Bool} {db : Database} {log : Log}

/-! ## The statements -/

/-- The statement that a lookup sends first. -/
def statement (valid : String → Bool) : Lookup → Statement
  | sources => ⟨sourcesSql, []⟩
  | scopes => ⟨scopesSql, []⟩
  | tables among => restricted (items among) tablesInScopesSql (plainList "name" "dict_dataset")
  | fields among => fieldsStatement ((items among).map (pattern valid))
  | appCodes => ⟨plainList "app_code" "cfg_application", []⟩
  | flowNames among => restricted (items among) flowsOfAppsSql (plainList "flow_name" "flow")
  | jobNames => ⟨jobNamesSql, []⟩

/-- The terms of a lookup that stand for patterns. -/
def patternTerms : Lookup → List String
  | fields among => items among
  | _ => []

/-- The statement that matches all terms literally. -/
def literalStatement (terms : List String) : Statement :=
  ⟨fieldsOfTablesSql, [.textArray (terms.map Pattern.literal)]⟩

lemma fieldsStatement_map {terms : List String} (h : terms ≠ []) (make : String → String) :
    fieldsStatement (terms.map make) = ⟨fieldsOfTablesSql, [.textArray (terms.map make)]⟩ := by
  have hnonempty : ¬ (terms.map make).isEmpty = true := by simpa using h
  rw [fieldsStatement, restricted, if_neg hnonempty]

/-! ## Runs -/

lemma run_list (h : db.fault log = none) (st : Statement) :
    (list db st).run log = (db.listed log st, log ++ [.query st]) := by
  rw [list, Session.run_bind_ok (Database.run_connect h), Database.fetchAll]
  cases hanswer : db.answer log (.query st) with
  | refused code message =>
    rw [Session.run_bind_error (Session.run_send_refused hanswer),
      Database.listed_of_refused hanswer]
  | rows rows =>
    rw [Session.run_bind_ok (Database.run_send hanswer), Database.listed_of_rows hanswer]
    cases rows.mapM Row.text? with
    | some values => rfl
    | none => rfl

lemma run_list_unconnected {fault : PoolFault} (h : db.fault log = some fault) (st : Statement) :
    (list db st).run log = (.error (.pool fault), log) :=
  Session.run_bind_error (Database.run_connect_of_fault h) _

lemma run_listFields_unconnected {fault : PoolFault} (h : db.fault log = some fault)
    (terms : List String) :
    (listFields valid db terms).run log = (.error (.pool fault), log) := by
  have hfirst := run_list_unconnected h (fieldsStatement (terms.map (pattern valid)))
  rw [listFields]
  split
  · exact hfirst
  · rw [Session.run_tryCatch_error hfirst]
    rfl

lemma run_listFields_of_rows (h : db.fault log = none) {terms : List String} {rows : List Row}
    (hanswer : db.answer log (.query (fieldsStatement (terms.map (pattern valid)))) = .rows rows) :
    (listFields valid db terms).run log =
      (list db (fieldsStatement (terms.map (pattern valid)))).run log := by
  have hfirst := run_list h (fieldsStatement (terms.map (pattern valid)))
  rw [Database.listed_of_rows hanswer] at hfirst
  rw [listFields]
  split
  · rfl
  · cases hread : rows.mapM Row.text? with
    | some values =>
      rw [hread] at hfirst
      rw [Session.run_tryCatch_ok hfirst, hfirst]
      rfl
    | none =>
      rw [hread] at hfirst
      rw [Session.run_tryCatch_error hfirst, hfirst]
      rfl

/-- Patterns that the server refuses are tried again literally. With any other outcome the first
statement is the only one. -/
lemma run_listFields (h : db.fault log = none) (terms : List String) :
    let first := fieldsStatement (terms.map (pattern valid))
    (listFields valid db terms).run log =
      if terms ≠ [] ∧ (db.answer log (.query first)).hasCode invalidPatternCode = true then
        (list db (literalStatement terms)).run (log ++ [.query first])
      else (db.listed log first, log ++ [.query first]) := by
  intro first
  have hfirst : (list db first).run log = (db.listed log first, log ++ [.query first]) :=
    run_list h first
  cases hanswer : db.answer log (.query first) with
  | rows rows =>
    have hretry : ¬ (terms ≠ [] ∧ (Reply.rows rows).hasCode invalidPatternCode = true) :=
      fun hretry => nomatch hretry.2
    rw [if_neg hretry, run_listFields_of_rows h hanswer]
    exact hfirst
  | refused code message =>
    by_cases hnone : terms = []
    · have hretry : ¬ (terms ≠ [] ∧
          (Reply.refused code message).hasCode invalidPatternCode = true) :=
        fun hretry => hretry.1 hnone
      have hempty : terms.isEmpty = true := List.isEmpty_iff.mpr hnone
      rw [if_neg hretry, listFields, if_pos hempty]
      exact hfirst
    · have hfull : ¬ terms.isEmpty = true := by simpa using hnone
      have herror := hfirst
      rw [Database.listed_of_refused hanswer] at herror
      rw [listFields, if_neg hfull, Session.run_tryCatch_error herror]
      by_cases hcode : code = invalidPatternCode
      · have hretry : terms ≠ [] ∧
            (Reply.refused code message).hasCode invalidPatternCode = true :=
          ⟨hnone, by simpa [Reply.hasCode] using hcode⟩
        rw [if_pos hretry]
        simp only [if_pos hcode]
        rw [fieldsStatement_map hnone Pattern.literal]
        rfl
      · have hretry : ¬ (terms ≠ [] ∧
            (Reply.refused code message).hasCode invalidPatternCode = true) :=
          fun hretry => hcode (by simpa [Reply.hasCode] using hretry.2)
        rw [if_neg hretry, Database.listed_of_refused hanswer]
        simp only [if_neg hcode]
        rfl

lemma run_unconnected {fault : PoolFault} (h : db.fault log = some fault) (l : Lookup) :
    (l.run valid db).run log = (.error (.pool fault), log) := by
  cases l with
  | fields among => exact run_listFields_unconnected h _
  | _ => exact run_list_unconnected h _

lemma run_connected (h : db.fault log = none) (l : Lookup) :
    let first := l.statement valid
    (l.run valid db).run log =
      if l.patternTerms ≠ [] ∧
          (db.answer log (.query first)).hasCode invalidPatternCode = true then
        (list db (literalStatement l.patternTerms)).run (log ++ [.query first])
      else (db.listed log first, log ++ [.query first]) := by
  intro first
  cases l with
  | fields among => exact run_listFields h (items among)
  | _ =>
    rw [if_neg (fun hretry => hretry.1 rfl)]
    exact run_list h first

lemma statement_of_patternTerms {l : Lookup} (h : l.patternTerms ≠ []) : l.statement valid =
    ⟨fieldsOfTablesSql, [.textArray (l.patternTerms.map (pattern valid))]⟩ := by
  cases l with
  | fields among => exact fieldsStatement_map h _
  | _ => exact absurd rfl h

/-! ## Arguments -/

/-- Commas and white space make no items. -/
lemma splitList_of_separators {s : String}
    (h : ∀ c ∈ s.toList, c = ',' ∨ Text.isWhiteSpace c = true) : Text.splitList s = [] := by
  have hsurrounds : Text.Surrounds "" s := ⟨s, "", by simp, by simpa using h⟩
  rw [Text.splitList, hsurrounds.commaItems_eq]
  rfl

/-- A lookup without a connection sends nothing. With one it sends its statement and gives the
values replied, or the error. If that statement has patterns and is refused with the code 2201B, and
only then, the same SQL is sent once more with all terms literal, and the reply to that one is the
result; that takes a connection of its own, and where none can be had any more, nothing else is
sent. The patterns bound first are the terms that are regular expressions, and the others literally.
Arguments with the same items make no difference, and commas and white space are no items. -/
theorem lookups_follow_protocol (valid : String → Bool) (db : Database) (log : Log) :
    (∀ l : Lookup,
      let (result, sent) := (l.run valid db).run log
      let first := l.statement valid
      let second := literalStatement l.patternTerms
      (l.patternTerms ≠ [] →
        first = ⟨second.sql, [.textArray (l.patternTerms.map fun term =>
          if valid term then term else Pattern.literal term)]⟩) ∧
      match db.fault log with
      | some fault => result = .error (.pool fault) ∧ sent = log
      | none =>
        if l.patternTerms ≠ [] ∧ (db.answer log (.query first)).hasCode "2201B" = true then
          match db.fault (log ++ [.query first]) with
          | some fault => result = .error (.pool fault) ∧ sent = log ++ [.query first]
          | none =>
            result = db.listed (log ++ [.query first]) second ∧
              sent = log ++ [.query first, .query second]
        else result = db.listed log first ∧ sent = log ++ [.query first]) ∧
    (∀ among among' : Option String, items among = items among' →
      ((tables among).run valid db).run log = ((tables among').run valid db).run log ∧
      ((fields among).run valid db).run log = ((fields among').run valid db).run log ∧
      ((flowNames among).run valid db).run log = ((flowNames among').run valid db).run log) ∧
    ∀ s : String, (∀ c ∈ s.toList, c = ',' ∨ Text.isWhiteSpace c = true) →
      items (some s) = items none := by
  refine ⟨fun l => ?_, fun among among' hitems => ?_, fun s hs => splitList_of_separators hs⟩
  · rcases hrun : (l.run valid db).run log with ⟨result, sent⟩
    refine ⟨statement_of_patternTerms, ?_⟩
    cases hfault : db.fault log with
    | some fault =>
      rw [run_unconnected hfault] at hrun
      cases hrun
      exact ⟨rfl, rfl⟩
    | none =>
      rw [run_connected hfault, invalidPatternCode] at hrun
      by_cases hretry : l.patternTerms ≠ [] ∧
          (db.answer log (.query (l.statement valid))).hasCode "2201B" = true
      · refine (if_pos hretry).mpr ?_
        rw [if_pos hretry] at hrun
        cases hagain : db.fault (log ++ [.query (l.statement valid)]) with
        | some fault =>
          rw [run_list_unconnected hagain] at hrun
          cases hrun
          exact ⟨rfl, rfl⟩
        | none =>
          rw [run_list hagain, List.append_assoc] at hrun
          cases hrun
          exact ⟨rfl, rfl⟩
      · refine (if_neg hretry).mpr ?_
        rw [if_neg hretry] at hrun
        cases hrun
        exact ⟨rfl, rfl⟩
  · simp only [Lookup.run, hitems, and_self]

/-- A valid and an invalid term, and a server that refuses the patterns made of them. -/
theorem lookups_follow_protocol_retried :
    let db := Script.database
      { replies := [.refused "2201B" "invalid regular expression", .rows [[.text "id"]]] }
    let valid := fun term : String => term = "a.b"
    ((fields (some "a.b, c(")).run valid db).run [] =
      (.ok ["id"], [.query ⟨fieldsOfTablesSql, [.textArray ["a.b", "c\\("]]⟩,
        .query ⟨fieldsOfTablesSql, [.textArray ["a\\.b", "c\\("]]⟩]) ∧
    ((fields (some ",\u3000,")).run valid db).run [] = ((fields none).run valid db).run [] := by
  intro db valid
  obtain ⟨hrun, hsame, hblank⟩ := lookups_follow_protocol valid db []
  have hitems : items (some "a.b, c(") = ["a.b", "c("] := by decide +kernel
  have hseparators : ∀ c ∈ [',', '\u3000', ','], c = ',' ∨ Text.isWhiteSpace c = true := by
    rw [List.forall_mem_cons, List.forall_mem_cons, List.forall_mem_singleton]
    decide
  have hsecond := hsame _ _ (hblank ",\u3000," hseparators)
  refine ⟨?_, hsecond.2.1⟩
  have hrefused : (fields (some "a.b, c(")).patternTerms ≠ [] ∧ (db.answer []
      (.query ((fields (some "a.b, c(")).statement valid))).hasCode "2201B" = true := by
    decide +kernel
  obtain ⟨hresult, hsent⟩ := (if_pos hrefused).mp (hrun (fields (some "a.b, c("))).2
  have hlisted : db.listed ([] ++ [.query ((fields (some "a.b, c(")).statement valid)])
      (literalStatement (items (some "a.b, c("))) = .ok ["id"] := by
    rw [hitems]
    rfl
  refine Prod.ext (hresult.trans hlisted) (hsent.trans ?_)
  decide +kernel

end Lookup

end FacetSearch
