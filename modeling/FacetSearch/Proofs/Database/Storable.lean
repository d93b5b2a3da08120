import FacetSearch.Proofs.Database.Lookup
import FacetSearch.Proofs.Database.Protocol
import FacetSearch.Proofs.Query.Storable

/-!
# Statements that can be bound

Whether the database can take the statements that are sent for a caller. Only the texts given by the
caller decide it: searches and lookups pass on each character of them.
-/

namespace FacetSearch

open Database

namespace Command

/-- All values of the statement that is sent can be stored. -/
def Storable (c : Command) : Prop := c.statement.Storable

instance (c : Command) : Decidable c.Storable :=
  inferInstanceAs (Decidable (Bind.AllStorable c.statement.binds))

lemma storable_of_ne_query {c : Command} (h : ∀ st, c ≠ .query st) : c.Storable := by
  cases c with
  | query st => exact absurd rfl (h st)
  | limitTime milliseconds =>
    have hlimit : Text.Storable (toString milliseconds ++ "ms") := by
      rw [Text.storable_append]
      exact ⟨Text.storable_natText milliseconds, by decide⟩
    exact Bind.allStorable_cons.mpr ⟨hlimit, Bind.allStorable_nil⟩
  | _ => exact Bind.allStorable_nil

end Command

/-- What has been sent since the log can all be bound if `P` holds, and otherwise as long as no
query has been sent. -/
def Database.BoundIff (log sent : Log) (P : Prop) : Prop :=
  ∃ new, sent = log ++ new ∧ ((∀ c ∈ new, c.Storable) ↔ P ∨ ∀ st, .query st ∉ new)

/-! ## Searches -/

/-- What has been sent are the commands from before and a first part of those of the steps. -/
lemma Database.Follows.exists_new {α : Type} {db : Database} {log sent : Log} {steps : List Step}
    {result : Except Fault α} (h : db.Follows log steps result sent) :
    ∃ new, sent = log ++ new ∧ new <+: steps.map Step.command := by
  cases hfault : db.fault log with
  | some fault => exact ⟨[], by simpa using (h.unconnected fault hfault).2, List.nil_prefix⟩
  | none =>
    cases result with
    | ok a => exact ⟨_, h.complete rfl, List.prefix_rfl⟩
    | error fault =>
      obtain ⟨before, step, after, rfl, -, -, hsent, -⟩ := h.stops hfault fault rfl
      refine ⟨before.map Step.command ++ [step.command], by simpa using hsent, ?_⟩
      rw [List.map_append, List.map_cons, List.prefix_append_right_inj]
      exact ⟨after.map Step.command, rfl⟩

/-- All statements of the steps can be bound if `P` holds, and the first one, a query, only if it
holds. -/
structure Database.Decides (steps : List Step) (P : Prop) : Prop where
  storable : P → ∀ step ∈ steps, step.command.Storable
  first : ∃ st, (steps.map Step.command).head? = some (.query st) ∧ (st.Storable → P)

lemma decides_pageSteps {α : Type} (read : Row → Option α) {q : Query} {P : Prop}
    (hpage : q.pageStatement.Storable ↔ P) (hcount : q.countStatement.Storable ↔ P) :
    Decides (q.pageSteps read) P where
  storable hP := List.forall_mem_cons.mpr
    ⟨hpage.mpr hP, List.forall_mem_singleton.mpr (hcount.mpr hP)⟩
  first := ⟨q.pageStatement, rfl, hpage.mp⟩

/-- The values of a filter decide whether the statements of its plan can be bound. -/
lemma DatasetFilter.decides_plan (f : DatasetFilter) {r : Ranking}
    (hstems : ∀ n ∈ r.namespaces, Text.Storable n.stem) (w : PageWindow) (db : Database)
    (log : Log) : Decides ((f.plan w r).steps db log) (∀ v ∈ f.values, Text.Storable v) := by
  rcases f.plan_cases w r with ⟨-, hplan⟩ | ⟨text, -, ⟨-, hplan⟩ | ⟨hplain, hplan⟩⟩ <;> rw [hplan]
  · exact decides_pageSteps Dataset.ofRow? (storable_structuredPage w hstems)
      f.storable_structuredQuery
  · have hids := (Query.storable_idsStatement f.structuredQuery).trans f.storable_structuredQuery
    refine ⟨fun hvalues => ?_, f.structuredQuery.idsStatement, rfl, hids.mp⟩
    rw [DatasetPlan.steps, List.forall_mem_cons]
    refine ⟨hids.mpr hvalues, ?_⟩
    split
    · exact List.forall_mem_nil _
    · obtain ⟨hpage, hcount⟩ := storable_followUp w text hstems hvalues
        (f.structuredQuery.repliedIds db log)
      exact List.forall_mem_cons.mpr ⟨hpage, List.forall_mem_singleton.mpr hcount⟩
  · obtain ⟨hpage, hcount⟩ := storable_freeTextQuery w text
    have hnone : ∀ v ∈ f.values, Text.Storable v := by
      rw [values_eq_nil hplain]
      exact List.forall_mem_nil _
    exact decides_pageSteps Dataset.ofRow? (iff_of_true hpage hnone) (iff_of_true hcount hnone)

namespace SearchEngine

lemma query_notMem_opening (e : SearchEngine) (st : Statement) :
    .query st ∉ e.opening.map Step.command := by
  rw [opening]
  split <;> simp [Step.control]

/-- Once a query has been sent, the first one has been. -/
lemma first_mem {opening rest new : List Command} {c : Command} {st : Statement}
    (hopening : ∀ st, .query st ∉ opening) (hfront : new <+: opening ++ c :: rest)
    (hmem : .query st ∈ new) : c ∈ new := by
  rcases List.prefix_or_prefix_of_prefix hfront (List.prefix_append opening (c :: rest)) with
    hshort | ⟨later, rfl⟩
  · exact absurd (hshort.subset hmem) (hopening st)
  · rw [List.prefix_append_right_inj] at hfront
    cases later with
    | nil =>
      rw [List.append_nil] at hmem
      exact absurd hmem (hopening st)
    | cons d later =>
      obtain ⟨rfl, -⟩ := List.cons_prefix_cons.mp hfront
      simp

/-- A transaction sends only what can be bound if its values can be stored, or if it does not come
to its first query. -/
lemma boundIff_of_follows {α : Type} {e : SearchEngine} {db : Database} {log sent : Log}
    {steps : Log → List Step} {result : Except Fault α} {P : Prop}
    (hsteps : ∀ sent, Decides (steps sent) P)
    (h : db.Follows log (e.transaction log steps) result sent) : BoundIff log sent P := by
  obtain ⟨new, hsent, hfront⟩ := h.exists_new
  refine ⟨new, hsent, ?_⟩
  obtain ⟨hstorable, first, hfirst, hdecides⟩ := hsteps (log ++ e.opening.map Step.command)
  obtain ⟨rest, hrest⟩ := List.head?_eq_some_iff.mp hfirst
  rw [transaction, List.map_append, List.map_append] at hfront
  constructor
  · intro hall
    by_cases hquery : ∃ st, .query st ∈ new
    · obtain ⟨st, hst⟩ := hquery
      rw [hrest, List.cons_append] at hfront
      exact .inl (hdecides (hall _ (first_mem e.query_notMem_opening hfront hst)))
    · exact .inr (not_exists.mp hquery)
  · rintro (hP | hnone) c hc
    · have hc' := hfront.subset hc
      rw [List.mem_append, List.mem_append] at hc'
      rcases hc' with hopening | hstep | hcommit
      · exact Command.storable_of_ne_query fun st heq => e.query_notMem_opening st (heq ▸ hopening)
      · obtain ⟨s, hs, rfl⟩ := List.mem_map.mp hstep
        exact hstorable hP s hs
      · obtain rfl := List.mem_singleton.mp hcommit
        exact Command.storable_of_ne_query (by simp [Step.control])
    · exact Command.storable_of_ne_query fun st heq => hnone st (heq ▸ hc)

end SearchEngine

/-! ## What callers give -/

namespace DatasetFilter

/-- The places of the options where a caller gives values. -/
def places (options : Json) : List (Option Json) :=
  [("scope", "in"), ("scope", "not"), ("table", "in"), ("table", "not"), ("fields", "any"),
    ("fields", "all"), ("fields", "not")].map (fun (part, key) =>
      (options.member? part).bind (Json.member? key)) ++ [options.member? "sources"]

/-- The texts that a caller gives as values of facets. -/
def givenTexts (options : Json) : List String := (places options).flatMap Json.givenTexts

lemma storable_values (options : Json) :
    (∀ v ∈ (ofMembers options).values, Text.Storable v) ↔
      ∀ s ∈ givenTexts options, Text.Storable s := by
  have hvalues : (ofMembers options).values = (places options).flatMap Json.valueList := by
    simp [values, ValueFacet.values, ofMembers, ValueFacet.ofSection, FieldFacet.ofSection, places,
      sectionList]
  simp only [hvalues, givenTexts, List.forall_mem_flatMap, Json.storable_valueList]

end DatasetFilter

namespace FlowFilter

/-- The places of the options where a caller gives values. -/
def places (options : Json) : List (Option Json) :=
  [("appcode", "in"), ("appcode", "not"), ("flow", "in"), ("flow", "not"), ("job", "in"),
    ("job", "not")].map fun (part, key) => (options.member? part).bind (Json.member? key)

/-- The texts that a caller gives as values of facets. -/
def givenTexts (options : Json) : List String := (places options).flatMap Json.givenTexts

lemma storable_values (options : Json) :
    (∀ v ∈ (ofMembers options).values, Text.Storable v) ↔
      ∀ s ∈ givenTexts options, Text.Storable s := by
  have hvalues : (ofMembers options).values = (places options).flatMap Json.valueList := by
    simp [values, ValueFacet.values, ofMembers, ValueFacet.ofSection, places, sectionList]
  simp only [hvalues, givenTexts, List.forall_mem_flatMap, Json.storable_valueList]

end FlowFilter

/-! ## Lookups -/

namespace Lookup

/-- The list that a caller restricts the lookup to. -/
def argument : Lookup → Option String
  | tables among | fields among | flowNames among => among
  | _ => none

lemma storable_restricted (items : List String) (sql unrestricted : String) :
    (restricted items sql unrestricted).Storable ↔ ∀ s ∈ items, Text.Storable s := by
  rw [restricted]
  cases items with
  | nil => simp [Statement.Storable]
  | cons item items => simp [Statement.Storable, Bind.Storable]

lemma storable_items (argument : Option String) :
    (∀ s ∈ items argument, Text.Storable s) ↔ ∀ s ∈ argument, Text.Storable s := by
  cases argument with
  | none => simp [items]
  | some s => simp [items]

lemma storable_pattern (valid : String → Bool) (term : String) :
    Text.Storable (pattern valid term) ↔ Text.Storable term := by
  rw [pattern]
  split
  · rfl
  · exact Text.storable_literal

lemma storable_fieldsStatement {make : String → String}
    (h : ∀ s, Text.Storable (make s) ↔ Text.Storable s) (terms : List String) :
    (fieldsStatement (terms.map make)).Storable ↔ ∀ s ∈ terms, Text.Storable s := by
  simp only [fieldsStatement, storable_restricted, List.forall_mem_map, h]

/-- The statement of a lookup holds its argument and nothing else. -/
lemma storable_statement (valid : String → Bool) (l : Lookup) :
    (l.statement valid).Storable ↔ ∀ s ∈ l.argument, Text.Storable s := by
  cases l with
  | fields among =>
    exact (storable_fieldsStatement (storable_pattern valid) _).trans (storable_items among)
  | tables among | flowNames among =>
    exact (storable_restricted _ _ _).trans (storable_items among)
  | sources | scopes | appCodes | jobNames =>
    exact iff_of_true Bind.allStorable_nil fun s hs => nomatch hs

lemma storable_literalStatement {l : Lookup} (h : l.patternTerms ≠ []) :
    (literalStatement l.patternTerms).Storable ↔ ∀ s ∈ l.argument, Text.Storable s := by
  cases l with
  | fields among =>
    rw [literalStatement, ← fieldsStatement_map h Pattern.literal]
    exact (storable_fieldsStatement (fun _ => Text.storable_literal) _).trans
      (storable_items among)
  | _ => exact absurd rfl h

/-- Whatever a lookup sends can be bound if its argument can. -/
lemma exists_new_run (valid : String → Bool) (db : Database) (l : Lookup) (log : Log) :
    ∃ new, ((l.run valid db).run log).2 = log ++ new ∧
      ∀ c ∈ new, c.Storable ↔ ∀ s ∈ l.argument, Text.Storable s := by
  cases hfault : db.fault log with
  | some fault =>
    rw [run_unconnected hfault]
    exact ⟨[], (List.append_nil log).symm, fun c hc => nomatch hc⟩
  | none =>
    have hfirst : ∀ c ∈ [Command.query (l.statement valid)],
        c.Storable ↔ ∀ s ∈ l.argument, Text.Storable s :=
      List.forall_mem_singleton.mpr (l.storable_statement valid)
    rw [run_connected hfault]
    split
    · next hretry =>
      cases hagain : db.fault (log ++ [.query (l.statement valid)]) with
      | some fault =>
        rw [run_list_unconnected hagain]
        exact ⟨_, rfl, hfirst⟩
      | none =>
        have hboth : ∀ c ∈ [Command.query (l.statement valid),
            .query (literalStatement l.patternTerms)],
            c.Storable ↔ ∀ s ∈ l.argument, Text.Storable s :=
          List.forall_mem_cons.mpr ⟨l.storable_statement valid,
            List.forall_mem_singleton.mpr (storable_literalStatement hretry.1)⟩
        rw [run_list hagain, List.append_assoc]
        exact ⟨_, rfl, hboth⟩
    · exact ⟨_, rfl, hfirst⟩

lemma boundIff_run (valid : String → Bool) (db : Database) (l : Lookup) (log : Log) :
    BoundIff log ((l.run valid db).run log).2 (∀ s ∈ l.argument, Text.Storable s) := by
  obtain ⟨new, hsent, hnew⟩ := l.exists_new_run valid db log
  refine ⟨new, hsent, ?_⟩
  constructor
  · intro hall
    cases new with
    | nil => exact .inr fun st => List.not_mem_nil
    | cons c new =>
      exact .inl ((hnew c List.mem_cons_self).mp (hall c List.mem_cons_self))
  · rintro (hargument | hnone) c hc
    · exact (hnew c hc).mpr hargument
    · exact Command.storable_of_ne_query fun st heq => hnone st (heq ▸ hc)

end Lookup

/-- Whatever a caller gives to a search or a lookup, all values of the statements that are sent can
be stored just when each text given as a value of a facet, or as the list of the lookup, can be
stored, unless no query is sent at all. Free text, numbers and everything else in the options do
not matter, and of the settings nothing but the namespaces. -/
theorem sent_storable_iff (e : SearchEngine)
    (hstems : ∀ n ∈ e.ranking.namespaces, Text.Storable n.stem) (db : Database) (w : PageWindow)
    (seconds : Float) (valid : String → Bool) (st : ServiceState) :
    (∀ options, BoundIff st.sent ((e.searchDatasets db options w seconds).run st).2.sent
      (∀ s ∈ DatasetFilter.givenTexts options, Text.Storable s)) ∧
    (∀ options, BoundIff st.sent ((e.searchFlows db options w seconds).run st).2.sent
      (∀ s ∈ FlowFilter.givenTexts options, Text.Storable s)) ∧
    ∀ l : Lookup, BoundIff st.sent ((Service.ofSession (l.run valid db)).run st).2.sent
      (∀ s ∈ l.argument, Text.Storable s) := by
  have hnothing {P : Prop} : BoundIff st.sent st.sent P := ⟨[], by simp⟩
  refine ⟨fun options => ?_, fun options => ?_, fun l => l.boundIff_run valid db st.sent⟩
  · cases options with
    | object members =>
      rw [← DatasetFilter.storable_values]
      exact SearchEngine.boundIff_of_follows
        (fun sent => (DatasetFilter.ofMembers (.object members)).decides_plan hstems w db sent)
        (e.follows_searchDatasets db rfl w seconds st)
    | _ => exact hnothing
  · cases options with
    | object members =>
      obtain ⟨hcount, hpage⟩ := (FlowFilter.ofMembers (.object members)).storable_query w
      rw [← FlowFilter.storable_values]
      exact SearchEngine.boundIff_of_follows
        (fun _ => decides_pageSteps FlowJobRow.ofRow? hpage hcount)
        (e.follows_searchFlows db rfl w seconds st)
    | _ => exact hnothing

/-- The default settings, and a search for two tables. -/
theorem sent_storable_iff_default :
    let e := SearchEngine.ofSettings {} 30
    let options := Json.object [("table", .object [("in", .string "member,page")])]
    (∀ n ∈ e.ranking.namespaces, Text.Storable n.stem) ∧
      BoundIff []
        ((e.searchDatasets ⟨fun _ => none, fun _ _ => .rows []⟩ options ⟨1, 10⟩ 0).run {}).2.sent
        (∀ s ∈ ["member,page"], Text.Storable s) := by
  intro e options
  have hstems : ∀ n ∈ e.ranking.namespaces, Text.Storable n.stem := by decide
  exact ⟨hstems, (sent_storable_iff e hstems ⟨fun _ => none, fun _ _ => .rows []⟩ ⟨1, 10⟩ 0
    (fun _ => true) {}).1 options⟩

/-- A source that consists of the character U+0000 is bound as it is. -/
theorem nul_source_sent :
    let e := SearchEngine.ofSettings {} 30
    let options := Json.object [("sources", .string "\x00")]
    let after :=
      ((e.searchDatasets ⟨fun _ => none, fun _ _ => .rows []⟩ options ⟨1, 10⟩ 0).run {}).2
    (∀ n ∈ e.ranking.namespaces, Text.Storable n.stem) ∧
      ∃ c ∈ after.sent, Bind.textArray ["\x00"] ∈ c.statement.binds ∧ ¬ c.Storable := by
  decide +kernel

end FacetSearch
