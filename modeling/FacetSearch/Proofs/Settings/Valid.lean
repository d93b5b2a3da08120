import FacetSearch.Settings.Problem
import Mathlib.Algebra.Order.Group.Int
import Mathlib.Tactic.Lemma

/-!
# Valid settings

Settings without a problem bound the pages of searches. Whatever page is asked for, the window is
one that a query can have, and asking for it again changes nothing.
-/

namespace FacetSearch

namespace Settings

/-- Everything that is asked of settings. -/
structure IsSound (s : Settings) : Prop where
  port : s.server.port ≠ 0
  url : ¬ Text.isBlank s.database.url
  poolMaxSize : s.database.poolMaxSize ≠ 0
  poolBounds : s.database.poolMinSize ≤ s.database.poolMaxSize
  one_le_pageSize : 1 ≤ s.search.defaultPageSize
  pageSizeBounds : s.search.defaultPageSize ≤ s.search.maxPageSize
  namespaces : ∀ n ∈ s.search.namespaces, ¬ Text.isBlank n.stem
  fileRotation : s.logging.fileRotation ∈ rotations

/-- A check that finds no problem leaves it to those after it to find one. -/
lemma check_eq_none_iff {c : Prop} [Decidable c] {p : SettingsProblem}
    {others : Option SettingsProblem} :
    (if c then some p else others) = none ↔ ¬ c ∧ others = none := by
  by_cases hc : c
  · simp [hc]
  · simp [hc]

/-- The settings without a problem are those that meet all requirements. -/
theorem problem?_eq_none_iff (s : Settings) : s.problem? = none ↔ s.IsSound := by
  have hrotation (p : SettingsProblem) :
      (if s.logging.fileRotation ∈ rotations then none else some p) = none ↔
        s.logging.fileRotation ∈ rotations := by
    simp
  unfold problem?
  simp only [check_eq_none_iff, hrotation, List.any_eq_true, not_exists, not_and]
  constructor
  · rintro ⟨hport, hurl, hmax, hbounds, hsizes, hsizeBounds, hnamespaces, hfile⟩
    exact ⟨hport, hurl, hmax, by omega, by omega, by omega, hnamespaces, hfile⟩
  · rintro ⟨hport, hurl, hmax, hbounds, hone, hsizeBounds, hnamespaces, hfile⟩
    exact ⟨hport, hurl, hmax, by omega, by omega, by omega, hnamespaces, hfile⟩

end Settings

/-! ## Windows -/

/-- The number is a signed 64-bit integer. -/
def FitsInt64 (n : Int) : Prop := -maxInt64 - 1 ≤ n ∧ n ≤ maxInt64

instance (n : Int) : Decidable (FitsInt64 n) := inferInstanceAs (Decidable (_ ∧ _))

namespace PageWindow

variable {w w' : PageWindow}

lemma product_nonneg (hpage : 1 ≤ w.page) (hsize : 1 ≤ w.size) : 0 ≤ (w.page - 1) * w.size :=
  Int.mul_nonneg (by omega) (by omega)

lemma offset_nonneg (hpage : 1 ≤ w.page) (hsize : 1 ≤ w.size) : 0 ≤ w.offset :=
  le_min (product_nonneg hpage hsize) (by decide)

/-- The rows before a window are counted exactly as long as their number can be written. -/
lemma offset_eq_ite (hpage : 1 ≤ w.page) (hsize : 1 ≤ w.size) :
    w.offset =
      if FitsInt64 ((w.page - 1) * w.size) then (w.page - 1) * w.size else maxInt64 := by
  have hnonneg := product_nonneg hpage hsize
  by_cases hfits : FitsInt64 ((w.page - 1) * w.size)
  · rw [if_pos hfits]
    exact min_eq_left hfits.2
  · have hlarge : maxInt64 ≤ (w.page - 1) * w.size := by
      by_contra hsmall
      refine hfits ⟨?_, by omega⟩
      have hlow : -maxInt64 - 1 ≤ 0 := by decide
      exact hlow.trans hnonneg
    rw [if_neg hfits]
    exact min_eq_right hlarge

lemma offset_mono (hwidth : w.size = w'.size) (hsize : 1 ≤ w.size) (hpage : w.page ≤ w'.page) :
    w.offset ≤ w'.offset := by
  have hproduct : (w.page - 1) * w.size ≤ (w'.page - 1) * w'.size := by
    rw [← hwidth]
    exact Int.mul_le_mul_of_nonneg_right (by omega) (by omega)
  exact min_le_min_right maxInt64 hproduct

end PageWindow

namespace PageRequest

variable {sizes : PageSizes} {page size : Int}

/-- A missing page and pages before the first one stand for the first one. -/
lemma window_page (r : PageRequest) (sizes : PageSizes) :
    (r.window sizes).page = max (r.page.getD 1) 1 := by
  unfold window PageWindow.clamp
  cases r.page with
  | none => rfl
  | some p =>
    by_cases hp : 1 ≤ p
    · simp only [if_pos hp, Option.getD_some]
    · simp only [if_neg hp, Option.getD_some]
      omega

/-- Also where no size is asked for, or none that can be had, the size is within its bounds. -/
lemma window_size_bounds (hdefault : 1 ≤ sizes.default) (hmax : sizes.default ≤ sizes.max)
    (r : PageRequest) : 1 ≤ (r.window sizes).size ∧ (r.window sizes).size ≤ sizes.max := by
  have hraised {size : Int} (hsize : 1 ≤ size) (hbound : size ≤ sizes.max) :
      1 ≤ max size 1 ∧ max size 1 ≤ sizes.max := by
    rw [max_eq_left hsize]
    exact ⟨hsize, hbound⟩
  unfold window PageWindow.clamp
  cases r.size with
  | none => exact hraised hdefault hmax
  | some asked =>
    by_cases hasked : 0 < asked
    · simp only [if_pos hasked]
      exact hraised (le_min hasked (hdefault.trans hmax)) (min_le_right _ _)
    · simp only [if_neg hasked]
      exact hraised hdefault hmax

/-- What can be had is given as it is asked for. -/
lemma window_of_within (hpage : 1 ≤ page) (hsize : 1 ≤ size) (hmax : size ≤ sizes.max) :
    PageRequest.window ⟨some page, some size⟩ sizes = ⟨page, size⟩ := by
  have hpositive : 0 < size := hsize
  simp only [PageRequest.window, PageWindow.clamp, if_pos hpage, if_pos hpositive,
    min_eq_left hmax, max_eq_left hpage, max_eq_left hsize]

end PageRequest

/-- With valid settings every window has a page and a size of at least one and no more rows than
allowed, and its own page and size ask for the same window again. The rows before it are as many as
its page and size say, up to the largest signed 64-bit integer. A page and a size within the bounds
are given as they are. For one size, later pages begin no earlier. -/
theorem windows_within_limits (s : Settings) (h : s.problem? = none) :
    let sizes := s.search.pageSizes
    (∀ r : PageRequest,
      let w := r.window sizes
      1 ≤ w.page ∧ 1 ≤ w.size ∧ w.size ≤ s.search.maxPageSize ∧ 0 ≤ w.offset ∧
        w.offset =
          (if FitsInt64 ((w.page - 1) * w.size) then (w.page - 1) * w.size else maxInt64) ∧
        PageRequest.window ⟨some w.page, some w.size⟩ sizes = w) ∧
    (∀ page size, 1 ≤ page → 1 ≤ size → size ≤ s.search.maxPageSize →
      PageRequest.window ⟨some page, some size⟩ sizes = ⟨page, size⟩) ∧
    ∀ (size : Option Int) (page page' : Int), page ≤ page' →
      (PageRequest.window ⟨some page, size⟩ sizes).offset ≤
        (PageRequest.window ⟨some page', size⟩ sizes).offset := by
  intro sizes
  have hsound := (s.problem?_eq_none_iff).mp h
  have hdefault : 1 ≤ sizes.default := hsound.one_le_pageSize
  have hmax : sizes.default ≤ sizes.max := hsound.pageSizeBounds
  refine ⟨?_, ?_, ?_⟩
  · intro r w
    have hpage : 1 ≤ w.page := by
      rw [r.window_page]
      exact le_max_right _ 1
    obtain ⟨hsize, hbound⟩ := r.window_size_bounds hdefault hmax
    exact ⟨hpage, hsize, hbound, PageWindow.offset_nonneg hpage hsize,
      PageWindow.offset_eq_ite hpage hsize, PageRequest.window_of_within hpage hsize hbound⟩
  · intro page size hpage hsize hbound
    exact PageRequest.window_of_within hpage hsize hbound
  · intro size page page' hle
    obtain ⟨hsize, -⟩ := PageRequest.window_size_bounds hdefault hmax ⟨some page, size⟩
    refine PageWindow.offset_mono rfl hsize ?_
    rw [PageRequest.window_page, PageRequest.window_page]
    exact max_le_max_right 1 hle

/-- The last page that can be asked for, where a page may hold as many rows as there can be: the
number of rows before it is cut off. -/
theorem windows_within_limits_largest :
    let s : Settings := { search := { defaultPageSize := maxInt64, maxPageSize := maxInt64 } }
    let w := PageRequest.window ⟨some maxInt64, some (-7)⟩ s.search.pageSizes
    s.problem? = none ∧ w = ⟨maxInt64, maxInt64⟩ ∧ w.offset = maxInt64 ∧
      PageRequest.window ⟨some w.page, some w.size⟩ s.search.pageSizes = w := by
  intro s w
  have hvalid : s.problem? = none := by decide
  obtain ⟨hwindows, -, -⟩ := windows_within_limits s hvalid
  obtain ⟨-, -, -, -, hoffset, hagain⟩ := hwindows ⟨some maxInt64, some (-7)⟩
  have hcut : ¬ FitsInt64 ((w.page - 1) * w.size) := by decide
  rw [if_neg hcut] at hoffset
  exact ⟨hvalid, by decide, hoffset, hagain⟩

end FacetSearch
