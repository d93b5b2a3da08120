import FacetSearch.Proofs.Sql.Meaning
import Mathlib.Data.List.Perm.Basic

/-!
# Sorting by cells

The order of cells is total and transitive, and so is that of lists of cells. Rows between which
it decides can be sorted in one way only.
-/

namespace FacetSearch

section Cells

variable (rules : TextRules)

lemma Cell.notAfter_total (c d : Cell) :
    c.notAfter rules d = true ∨ d.notAfter rules c = true := by
  cases c with
  | null => exact .inr (by cases d <;> rfl)
  | bigint m =>
    cases d with
    | bigint n =>
      simp only [notAfter, decide_eq_true_eq]
      exact le_total m n
    | _ => exact .inl rfl
  | text u =>
    cases d with
    | text v => exact rules.notAfter_total u v
    | null => exact .inl rfl
    | bigint n => exact .inr rfl

variable {rules}

lemma Cell.notAfter_trans {c d e : Cell} (h : c.notAfter rules d = true)
    (h' : d.notAfter rules e = true) : c.notAfter rules e = true := by
  cases c with
  | null =>
    cases d with
    | null => exact h'
    | _ => cases h
  | bigint m =>
    cases d with
    | bigint n =>
      cases e with
      | bigint k =>
        simp only [notAfter, decide_eq_true_eq] at h h' ⊢
        omega
      | _ => rfl
    | _ => cases e <;> first | rfl | cases h'
  | text u =>
    cases d with
    | text v =>
      cases e with
      | text w => exact rules.notAfter_trans u v w h h'
      | null => rfl
      | bigint k => cases h'
    | null => cases e <;> first | rfl | cases h'
    | bigint n => cases h

lemma cellsNotAfter_total (rules : TextRules) (cs ds : List Cell) :
    cellsNotAfter rules cs ds = true ∨ cellsNotAfter rules ds cs = true := by
  induction cs generalizing ds with
  | nil => exact .inl rfl
  | cons c cs ih =>
    cases ds with
    | nil => exact .inr rfl
    | cons d ds =>
      have hcell := Cell.notAfter_total rules c d
      have hcells := ih ds
      simp only [cellsNotAfter, Bool.and_eq_true, Bool.or_eq_true, Bool.not_eq_true']
      cases hcd : c.notAfter rules d <;> cases hdc : d.notAfter rules c <;> simp_all

lemma cellsNotAfter_trans {cs ds es : List Cell} (h : cellsNotAfter rules cs ds = true)
    (h' : cellsNotAfter rules ds es = true) : cellsNotAfter rules cs es = true := by
  induction cs generalizing ds es with
  | nil => rfl
  | cons c cs ih =>
    cases ds with
    | nil => cases h
    | cons d ds =>
      cases es with
      | nil => cases h'
      | cons e es =>
        simp only [cellsNotAfter, Bool.and_eq_true, Bool.or_eq_true, Bool.not_eq_true'] at h h' ⊢
        refine ⟨Cell.notAfter_trans h.1 h'.1, ?_⟩
        by_cases hec : e.notAfter rules c = true
        · -- All three first cells are level.
          have hdc : d.notAfter rules c = true := Cell.notAfter_trans h'.1 hec
          have hed : e.notAfter rules d = true := Cell.notAfter_trans hec h.1
          have hcs : cellsNotAfter rules cs ds = true := by simpa [hdc] using h.2
          have hds : cellsNotAfter rules ds es = true := by simpa [hed] using h'.2
          exact .inr (ih hcs hds)
        · exact .inl (Bool.eq_false_iff.mpr hec)

end Cells

section Order

variable {rules : TextRules} {heads : Heads} {t u : Tuple}

/-- Whether a key orders anything does not depend on the row. -/
lemma OrderKey.isSome_cell? (rules : TextRules) (heads : Heads) (t u : Tuple) (key : OrderKey) :
    (key.cell? rules heads t).isSome = (key.cell? rules heads u).isSome := by
  cases key with
  | column name => rfl
  | tiered tiers fallback =>
    have hlength : (tiers.filterMap (Tier.arm rules heads t)).length =
        (tiers.filterMap (Tier.arm rules heads u)).length := by
      have harm (tier : Tier) :
          (tier.arm rules heads t).isSome = (tier.arm rules heads u).isSome := by
        rw [Tier.arm, Tier.arm, Option.isSome_map, Option.isSome_map, Predicate.isSome_truth?,
          Predicate.isSome_truth?]
      rw [List.length_filterMap_eq_countP, List.length_filterMap_eq_countP, funext harm]
    rw [cell?, cell?]
    cases harms : tiers.filterMap (Tier.arm rules heads t) <;>
      cases harms' : tiers.filterMap (Tier.arm rules heads u) <;>
      simp_all

/-- Rows that may come in either order are level in every column that they are sorted by. -/
lemma Order.level_of_notAfter {keys : List OrderKey}
    (h : cellsNotAfter rules (cells rules heads t keys) (cells rules heads u keys) = true)
    (h' : cellsNotAfter rules (cells rules heads u keys) (cells rules heads t keys) = true) :
    ∀ column, .column column ∈ keys →
      (t.cell column).notAfter rules (u.cell column) = true ∧
        (u.cell column).notAfter rules (t.cell column) = true := by
  induction keys with
  | nil =>
    intro column hcolumn
    cases hcolumn
  | cons key keys ih =>
    intro column hcolumn
    have hsome := key.isSome_cell? rules heads t u
    rw [cells, cells, List.filterMap_cons, List.filterMap_cons] at h h'
    cases ht : key.cell? rules heads t with
    | none =>
      rw [ht, Option.isSome_none, eq_comm, Option.isSome_eq_false_iff, Option.isNone_iff_eq_none]
        at hsome
      rw [ht, hsome] at h h'
      rcases List.mem_cons.mp hcolumn with rfl | hmem
      · cases ht
      · exact ih h h' column hmem
    | some c =>
      rw [ht, Option.isSome_some, eq_comm, Option.isSome_iff_exists] at hsome
      obtain ⟨d, hu⟩ := hsome
      rw [ht, hu] at h h'
      simp only [cellsNotAfter, Bool.and_eq_true, Bool.or_eq_true, Bool.not_eq_true'] at h h'
      rcases List.mem_cons.mp hcolumn with rfl | hmem
      · obtain rfl : t.cell column = c := Option.some.inj ht
        obtain rfl : u.cell column = d := Option.some.inj hu
        exact ⟨h.1, h'.1⟩
      · have hcells := h.2.resolve_left (by simp [h'.1])
        have hcells' := h'.2.resolve_left (by simp [h.1])
        exact ih hcells hcells' column hmem

end Order

end FacetSearch
