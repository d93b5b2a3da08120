import FacetSearch.Text.Alphanumeric
import FacetSearch.Text.LowerCase
import Mathlib.Tactic.Lemma

/-!
# Lower case of letters and digits

A letter or digit has a lower-case form of letters and digits, which lower-casing leaves alone. Only
the capital I with a dot above has one with a character that is neither: the dot is a mark of its
own there.
-/

namespace FacetSearch.Text

/-! ## Increasing ranges -/

/-- The ranges follow each other from `bound` on. -/
def increasingFrom (bound : Nat) : List (Nat × Nat) → Bool
  | [] => true
  | (lo, hi) :: rest => Nat.ble bound lo && Nat.ble lo hi && increasingFrom (hi + 1) rest

/-- One of the ranges holds all code points from `lo` to `hi`. -/
def covers (ranges : List (Nat × Nat)) (lo hi : Nat) : Bool :=
  ranges.any fun range => Nat.ble range.1 lo && Nat.ble hi range.2

lemma le_of_increasingFrom {bound : Nat} {ranges : List (Nat × Nat)}
    (h : increasingFrom bound ranges = true) : ∀ range ∈ ranges, bound ≤ range.1 := by
  induction ranges generalizing bound with
  | nil => simp
  | cons range ranges ih =>
    obtain ⟨lo, hi⟩ := range
    simp only [increasingFrom, Bool.and_eq_true, Nat.ble_eq] at h
    obtain ⟨⟨hlo, hhi⟩, hrest⟩ := h
    rw [List.forall_mem_cons]
    refine ⟨hlo, fun range hrange => ?_⟩
    have hlater := ih hrest range hrange
    omega

lemma inRanges_of_mem {bound n : Nat} {ranges : List (Nat × Nat)}
    (h : increasingFrom bound ranges = true) {range : Nat × Nat} (hrange : range ∈ ranges)
    (hlo : range.1 ≤ n) (hhi : n ≤ range.2) : inRanges ranges n = true := by
  induction ranges generalizing bound with
  | nil => cases hrange
  | cons first ranges ih =>
    obtain ⟨lo, hi⟩ := first
    simp only [increasingFrom, Bool.and_eq_true, Nat.ble_eq] at h
    obtain ⟨⟨-, hordered⟩, hrest⟩ := h
    rw [inRanges]
    rcases List.mem_cons.mp hrange with rfl | hlater
    · rw [if_neg (Nat.not_lt.mpr hlo), if_pos hhi]
    · have hstart := le_of_increasingFrom hrest range hlater
      rw [if_neg (by omega), if_neg (by omega)]
      exact ih hrest hlater

lemma inRanges_of_covers {bound lo hi n : Nat} {ranges : List (Nat × Nat)}
    (h : increasingFrom bound ranges = true) (hcovers : covers ranges lo hi = true)
    (hlo : lo ≤ n) (hhi : n ≤ hi) : inRanges ranges n = true := by
  obtain ⟨range, hrange, hends⟩ := List.any_eq_true.mp hcovers
  simp only [Bool.and_eq_true, Nat.ble_eq] at hends
  exact inRanges_of_mem h hrange (Nat.le_trans hends.1 hlo) (Nat.le_trans hhi hends.2)

lemma increasing_alphanumericRanges : increasingFrom 0 alphanumericRanges = true := by
  decide +kernel

/-! ## Runs of mappings -/

namespace CaseRun

/-- The run gives the code point another form. -/
def Maps (r : CaseRun) (n : Nat) : Prop :=
  r.first ≤ n ∧ n ≤ r.last ∧ (n - r.first) % r.step = 0

/-- The first of the forms that the run gives. -/
def low (r : CaseRun) : Nat := (r.first + r.shift).toNat

/-- The last of the forms that the run gives. -/
def high (r : CaseRun) : Nat := (r.last + r.shift).toNat

/-- No form that the run gives is one that the other run maps: all of them are outside the other
run, or between its members. -/
def avoids (r other : CaseRun) : Bool :=
  Nat.blt r.high other.first || Nat.blt other.last r.low ||
    (other.step == 2 && (r.step == 2 || r.first == r.last) && (r.low - other.first) % 2 == 1)

lemma not_maps_of_avoids {r other : CaseRun} {n : Nat} (h : r.avoids other = true)
    (hpositive : 0 < r.first + r.shift) (hn : r.Maps n) :
    ¬ other.Maps (n + r.shift).toNat := by
  obtain ⟨hfirst, hlast, hstep⟩ := hn
  rintro ⟨hfirst', hlast', hstep'⟩
  simp only [avoids, low, high, Bool.or_eq_true, Bool.and_eq_true, Nat.blt_eq, beq_iff_eq] at h
  rcases h with (hbelow | habove) | ⟨⟨hother, hsame | hsingle⟩, hodd⟩
  · omega
  · omega
  · rw [hsame] at hstep
    rw [hother] at hstep'
    omega
  · rw [hother] at hstep'
    omega

end CaseRun

lemma exists_run_of_caseShift {runs : List CaseRun} {n : Nat} {d : Int}
    (h : caseShift runs n = some d) : ∃ r ∈ runs, r.Maps n ∧ d = r.shift := by
  induction runs with
  | nil => cases h
  | cons r runs ih =>
    rw [caseShift] at h
    split at h
    · cases h
    · split at h
      · rename_i hfirst hmapped
        exact ⟨r, List.mem_cons_self, ⟨by omega, hmapped⟩, (Option.some.inj h).symm⟩
      · obtain ⟨r', hr', hrest⟩ := ih h
        exact ⟨r', List.mem_cons_of_mem _ hr', hrest⟩

lemma caseShift_eq_none {runs : List CaseRun} {n : Nat} (h : ∀ r ∈ runs, ¬ r.Maps n) :
    caseShift runs n = none := by
  cases hshift : caseShift runs n with
  | none => rfl
  | some d =>
    obtain ⟨r, hr, hmaps, -⟩ := exists_run_of_caseShift hshift
    exact absurd hmaps (h r hr)

/-- No run of mappings reaches down to the first code point or into the surrogates. -/
lemma lowerCaseRuns_valid :
    ∀ r ∈ lowerCaseRuns, 0 < r.first + r.shift ∧
      (r.last + r.shift < 0xD800 ∨ 0xDFFF < r.first + r.shift ∧ r.last + r.shift < 0x110000) := by
  decide +kernel

lemma lowerCaseRuns_alphanumeric :
    (lowerCaseRuns.all fun r => covers alphanumericRanges r.low r.high) = true := by
  decide +kernel

/-- Lower-case forms have no other lower-case form. The run of one character is for the capital I
with a dot above, whose form is not given by a run. -/
lemma lowerCaseRuns_avoid :
    (lowerCaseRuns.all fun r => (⟨0x130, 0x130, 1, 0⟩ :: lowerCaseRuns).all r.avoids) = true := by
  decide +kernel

/-! ## Lower case of one character -/

/-- Lower-casing leaves the character alone wherever it stands. -/
def IsFixed (c : Char) : Prop := c ≠ 'Σ' ∧ lowerCaseChar c = [c]

instance (c : Char) : Decidable (IsFixed c) := inferInstanceAs (Decidable (_ ∧ _))

lemma isFixed_of_caseShift {c : Char} (hdotted : c ≠ 'İ')
    (h : caseShift lowerCaseRuns c.toNat = none) : IsFixed c := by
  constructor
  · rintro rfl
    revert h
    decide
  · rw [lowerCaseChar, if_neg hdotted, h]

lemma toNat_ofNat {n : Nat} (h : n.isValidChar) : (Char.ofNat n).toNat = n := by
  rw [Char.ofNat, dif_pos h]
  rfl

/-- A character has itself as its lower-case form, or the one that a run gives. -/
lemma lowerCaseChar_cases {c : Char} (h : c ≠ 'İ') :
    (caseShift lowerCaseRuns c.toNat = none ∧ lowerCaseChar c = [c]) ∨
      ∃ r ∈ lowerCaseRuns, r.Maps c.toNat ∧
        ∃ d : Char, lowerCaseChar c = [d] ∧ d.toNat = (c.toNat + r.shift).toNat := by
  rw [lowerCaseChar, if_neg h]
  cases hshift : caseShift lowerCaseRuns c.toNat with
  | none => exact .inl ⟨rfl, rfl⟩
  | some shift =>
    obtain ⟨r, hr, hmaps, rfl⟩ := exists_run_of_caseShift hshift
    have ⟨hfirst, hlast, _⟩ := hmaps
    obtain ⟨hpositive, hvalid⟩ := lowerCaseRuns_valid r hr
    have hchar : (c.toNat + r.shift).toNat.isValidChar := by
      unfold Nat.isValidChar
      omega
    exact .inr ⟨r, hr, hmaps, _, rfl, toNat_ofNat hchar⟩

lemma of_mem_lowerCaseChar {c d : Char} (hdotted : c ≠ 'İ') (hc : isAlphanumeric c = true)
    (hd : d ∈ lowerCaseChar c) : isAlphanumeric d = true ∧ IsFixed d := by
  rcases lowerCaseChar_cases hdotted with ⟨hnone, hself⟩ | ⟨r, hr, hmaps, d', hform, hnumber⟩
  · rw [hself, List.mem_singleton] at hd
    subst hd
    exact ⟨hc, isFixed_of_caseShift hdotted hnone⟩
  · rw [hform, List.mem_singleton] at hd
    subst hd
    obtain ⟨hpositive, -⟩ := lowerCaseRuns_valid r hr
    have ⟨hfirst, hlast, _⟩ := hmaps
    have hcovers := List.all_eq_true.mp lowerCaseRuns_alphanumeric r hr
    have havoids := List.all_eq_true.mp (List.all_eq_true.mp lowerCaseRuns_avoid r hr)
    have hfree : ∀ other ∈ ⟨0x130, 0x130, 1, 0⟩ :: lowerCaseRuns, ¬ other.Maps d.toNat := by
      intro other hother
      rw [hnumber]
      exact CaseRun.not_maps_of_avoids (havoids other hother) hpositive hmaps
    constructor
    · rw [isAlphanumeric, hnumber]
      refine inRanges_of_covers increasing_alphanumericRanges hcovers ?_ ?_
      · rw [CaseRun.low]
        omega
      · rw [CaseRun.high]
        omega
    · refine isFixed_of_caseShift ?_ (caseShift_eq_none fun other hother =>
        hfree other (List.mem_cons_of_mem _ hother))
      rintro rfl
      exact hfree _ List.mem_cons_self ⟨by decide, by decide, by decide⟩

lemma lowerCaseChar_ne_nil (c : Char) : lowerCaseChar c ≠ [] := by
  rw [lowerCaseChar]
  split
  · decide
  · split <;> exact List.cons_ne_nil _ _

/-! ## Lower case of a word -/

lemma lowerCaseFrom_of_isFixed {cs : List Char} (h : ∀ c ∈ cs, IsFixed c) (before : List Char) :
    lowerCaseFrom before cs = cs := by
  induction cs generalizing before with
  | nil => rfl
  | cons c cs ih =>
    obtain ⟨⟨hsigma, hself⟩, hcs⟩ := List.forall_mem_cons.mp h
    rw [lowerCaseFrom, if_neg hsigma, hself, ih hcs]
    rfl

/-- What lower-casing makes of the first character of a word. -/
lemma lowerCaseFrom_cons (before : List Char) (c : Char) (cs : List Char) :
    ∃ form, lowerCaseFrom before (c :: cs) = form ++ lowerCaseFrom (c :: before) cs ∧
      (form = lowerCaseChar c ∨ c = 'Σ' ∧ (form = ['σ'] ∨ form = ['ς'])) := by
  rw [lowerCaseFrom]
  by_cases hsigma : c = 'Σ'
  · rw [if_pos hsigma]
    refine ⟨_, rfl, .inr ⟨hsigma, ?_⟩⟩
    split
    · exact .inr rfl
    · exact .inl rfl
  · rw [if_neg hsigma]
    exact ⟨_, rfl, .inl rfl⟩

lemma lowerCaseFrom_ne_nil (before : List Char) {cs : List Char} (h : cs ≠ []) :
    lowerCaseFrom before cs ≠ [] := by
  cases cs with
  | nil => exact absurd rfl h
  | cons c cs =>
    obtain ⟨form, hform, hcases⟩ := lowerCaseFrom_cons before c cs
    have hne : form ≠ [] := by
      rcases hcases with rfl | ⟨-, rfl | rfl⟩
      · exact lowerCaseChar_ne_nil c
      · exact List.cons_ne_nil _ _
      · exact List.cons_ne_nil _ _
    rw [hform]
    exact List.append_ne_nil_of_left_ne_nil hne _

/-- The lower-case form of letters and digits keeps its case. It consists of letters and digits but
for the dots above. -/
lemma of_mem_lowerCaseFrom {cs : List Char} (h : ∀ c ∈ cs, isAlphanumeric c = true)
    (before : List Char) :
    ∀ d ∈ lowerCaseFrom before cs, IsFixed d ∧ (isAlphanumeric d = true ∨ d = '\u0307') := by
  induction cs generalizing before with
  | nil => exact fun d hd => nomatch hd
  | cons c cs ih =>
    obtain ⟨hc, hcs⟩ := List.forall_mem_cons.mp h
    obtain ⟨form, hform, hcases⟩ := lowerCaseFrom_cons before c cs
    rw [hform, List.forall_mem_append]
    refine ⟨?_, ih hcs _⟩
    rcases hcases with rfl | ⟨-, rfl | rfl⟩
    · by_cases hdotted : c = 'İ'
      · have hpair : lowerCaseChar 'İ' = ['i', '\u0307'] := by decide +kernel
        rw [hdotted, hpair, List.forall_mem_cons, List.forall_mem_singleton]
        decide +kernel
      · intro d hd
        obtain ⟨hletter, hfixed⟩ := of_mem_lowerCaseChar hdotted hc hd
        exact ⟨hfixed, .inl hletter⟩
    · exact List.forall_mem_singleton.mpr (by decide +kernel)
    · exact List.forall_mem_singleton.mpr (by decide +kernel)

/-- A dot above comes from a capital I that has it. -/
lemma dot_mem_lowerCaseFrom {cs : List Char} (h : ∀ c ∈ cs, isAlphanumeric c = true)
    (before : List Char) : '\u0307' ∈ lowerCaseFrom before cs ↔ 'İ' ∈ cs := by
  have hdot : isAlphanumeric '\u0307' = false := by decide +kernel
  induction cs generalizing before with
  | nil => exact iff_of_false List.not_mem_nil List.not_mem_nil
  | cons c cs ih =>
    obtain ⟨hc, hcs⟩ := List.forall_mem_cons.mp h
    obtain ⟨form, hform, hcases⟩ := lowerCaseFrom_cons before c cs
    have hfirst : '\u0307' ∈ form ↔ 'İ' = c := by
      rcases hcases with rfl | ⟨rfl, rfl | rfl⟩
      · by_cases hdotted : c = 'İ'
        · subst hdotted
          decide +kernel
        · refine iff_of_false (fun hmem => ?_) (Ne.symm hdotted)
          obtain ⟨hletter, -⟩ := of_mem_lowerCaseChar hdotted hc hmem
          rw [hdot] at hletter
          cases hletter
      · decide
      · decide
    have hrest : '\u0307' ∈ lowerCaseFrom (c :: before) cs ↔ 'İ' ∈ cs := ih hcs (c :: before)
    rw [hform, List.mem_append, List.mem_cons, hfirst, hrest]

end FacetSearch.Text
