import FacetSearch.Http.Application
import Mathlib.Tactic.Lemma

/-!
# Searches without options

Bytes that hold no options of a search: white space, anything that is not JSON, and JSON that is not
an object. A search with such options finds nothing, and does not ask the database.
-/

namespace FacetSearch

namespace Json

/-- White space before a token is skipped, or is no JSON. -/
lemma beginToken_of_isWhiteSpace {c : Char} (h : Text.isWhiteSpace c = true) :
    beginToken c = some (.between, []) ∨ beginToken c = none := by
  have hcode : c.toNat ≤ 32 ∨ 126 < c.toNat := by
    simp only [Text.isWhiteSpace, Bool.or_eq_true, Bool.and_eq_true, decide_eq_true_eq,
      beq_iff_eq] at h
    omega
  have hdigit : c.isDigit = (decide ('0'.val ≤ c.val) && decide (c.val ≤ '9'.val)) := rfl
  have halpha : c.isAlpha = (decide ('A'.val ≤ c.val ∧ c.val ≤ 'Z'.val) ||
      (decide ('a'.val ≤ c.val) && decide (c.val ≤ 'z'.val))) := rfl
  have hplain : c.isAlpha = false ∧ c.isDigit = false := by
    rw [Char.toNat] at hcode
    rw [halpha, hdigit]
    simp only [Bool.or_eq_false_iff, Bool.and_eq_false_iff, decide_eq_false_iff_not,
      UInt32.le_iff_toNat_le, Char.reduceVal, UInt32.reduceToNat]
    omega
  have hmark {d : Char} (hd : 32 < d.toNat ∧ d.toNat ≤ 126) : c ≠ d := by
    rintro rfl
    omega
  unfold beginToken
  by_cases hblank : isBlankChar c = true
  · rw [if_pos hblank]
    exact .inl rfl
  · have hminus : ¬ (c.isDigit || c == '-') = true := by simp [hplain.2, hmark]
    right
    rw [if_neg hblank, if_neg hminus, if_neg (by simp [hplain.1]), if_neg (hmark (by decide)),
      if_neg (hmark (by decide)), if_neg (hmark (by decide)), if_neg (hmark (by decide)),
      if_neg (hmark (by decide)), if_neg (hmark (by decide)), if_neg (hmark (by decide))]

lemma tokens?_of_isWhiteSpace {cs : List Char} (h : ∀ c ∈ cs, Text.isWhiteSpace c = true) :
    tokens? cs = some [] ∨ tokens? cs = none := by
  have hfold : cs.foldlM lexStep (.between, []) = some (.between, []) ∨
      cs.foldlM lexStep (.between, []) = none := by
    induction cs with
    | nil => exact .inl rfl
    | cons c cs ih =>
      rw [List.foldlM_cons]
      rcases beginToken_of_isWhiteSpace (h c List.mem_cons_self) with hskipped | hrefused
      · have hstep : lexStep (.between, []) c = some (.between, []) := by
          simp only [lexStep, Lexer.step, hskipped]
          rfl
        rw [hstep]
        exact ih fun d hd => h d (List.mem_cons_of_mem c hd)
      · have hstep : lexStep (.between, []) c = none := by
          simp only [lexStep, Lexer.step, hrefused]
          rfl
        rw [hstep]
        exact .inr rfl
  unfold tokens?
  rcases hfold with hskipped | hrefused
  · rw [hskipped]
    exact .inl rfl
  · rw [hrefused]
    exact .inr rfl

/-- A blank text writes no value. -/
lemma parse?_of_isBlank {s : String} (h : Text.isBlank s = true) : parse? s = none := by
  unfold parse?
  rcases tokens?_of_isWhiteSpace (List.all_eq_true.mp h) with hnone | hrefused
  · rw [hnone]
    rfl
  · rw [hrefused]
    rfl

end Json

/-- The bytes hold no options. -/
inductive Bytes.HoldNoOptions (b : Bytes) : Prop where
  | blank {s : String} (text : Bytes.text? b = some s) (blank : Text.isBlank s = true)
  | malformed (unread : (Bytes.text? b).bind Json.parse? = none)
  | noObject {v : Json} (read : (Bytes.text? b).bind Json.parse? = some v)
    (noObject : ∀ members, v ≠ .object members)

lemma Bytes.HoldNoOptions.options_ne_object {b : Bytes} (h : b.HoldNoOptions)
    (members : List (String × Json)) : Application.options b ≠ .object members := by
  unfold Application.options
  cases h with
  | blank htext hblank =>
    rw [htext, Option.bind_some, Json.parse?_of_isBlank hblank]
    exact nofun
  | malformed hunread =>
    rw [hunread]
    exact nofun
  | noObject hread hnoObject =>
    rw [hread]
    exact hnoObject members

/-- The page of a window on nothing, as it is shown. -/
def emptyPage (forFlows : Bool) (w : PageWindow) : Json :=
  .object ([("count", .int 0), ("page", .int w.page), ("itemsPerPage", .int w.size),
    ("totalPages", .int 0)] ++ (if forFlows then [("isFlowJob", .bool true)] else []) ++
    [("data", .array [])])

namespace SearchEngine

variable {options : Json} (e : SearchEngine) (db : Database) (w : PageWindow) (seconds : Float)
  (st : ServiceState)

lemma run_searchDatasets_of_ne_object (h : ∀ members, options ≠ .object members) :
    (e.searchDatasets db options w seconds).run st =
      (.ok (.empty w), { st with
        metrics := st.metrics.recordSearch ⟨datasetDomain, "none"⟩ "empty" seconds }) := by
  have hfilter : DatasetFilter.ofOptions? options = none := by
    cases options with
    | object members => exact absurd rfl (h members)
    | _ => rfl
  unfold searchDatasets
  rw [hfilter]
  rfl

lemma run_searchFlows_of_ne_object (h : ∀ members, options ≠ .object members) :
    (e.searchFlows db options w seconds).run st =
      (.ok (ResultPage.empty w).flowJobs, { st with
        metrics := st.metrics.recordSearch ⟨flowDomain, "none"⟩ "empty" seconds }) := by
  have hfilter : FlowFilter.ofOptions? options = none := by
    cases options with
    | object members => exact absurd rfl (h members)
    | _ => rfl
  unfold searchFlows
  rw [hfilter]
  rfl

end SearchEngine

end FacetSearch
