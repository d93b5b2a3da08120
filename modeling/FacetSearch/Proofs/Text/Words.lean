import FacetSearch.Text.Words
import FacetSearch.Proofs.Text.Bytes
import FacetSearch.Proofs.Text.CommaList
import FacetSearch.Proofs.Text.LowerCase

/-!
# Words as search terms

The terms of a text are its words in lower case, each of them once. A text whose words hold no
capital I with a dot above has terms of letters and digits alone, which are again their own terms.
With that letter a term has a dot that no word can have, and is split there.
-/

namespace FacetSearch.Text

/-! ## Parts between separators -/

section Split

variable {α : Type} {p : α → Bool}

lemma exists_mem_splitOnP {a : α} (ha : p a = false) (as : List α) :
    (∃ part ∈ as.splitOnP p, a ∈ part) ↔ a ∈ as := by
  induction as with
  | nil => simp
  | cons b as ih =>
    rw [List.splitOnP_cons_eq_if_modifyHead, List.mem_cons, ← ih]
    by_cases hb : p b = true
    · have hne : a ≠ b := by
        rintro rfl
        rw [ha] at hb
        cases hb
      simp [hb, hne]
    · cases hparts : as.splitOnP p with
      | nil => exact absurd hparts (List.splitOnP_ne_nil p as)
      | cons first rest => simp [hb, or_assoc]

lemma splitOnP_intercalate {sep : α} (hsep : p sep = true) {parts : List (List α)}
    (h : ∀ part ∈ parts, ∀ a ∈ part, p a = false) (hne : parts ≠ []) :
    ([sep].intercalate parts).splitOnP p = parts := by
  induction parts with
  | nil => exact absurd rfl hne
  | cons part parts ih =>
    obtain ⟨hpart, hparts⟩ := List.forall_mem_cons.mp h
    cases parts with
    | nil => simpa using List.splitOnP_eq_singleton hpart
    | cons next rest =>
      rw [List.intercalate_cons_cons, List.append_assoc, List.singleton_append,
        List.splitOnP_append_cons_of_forall_mem hpart sep hsep, ih hparts (List.cons_ne_nil _ _)]

end Split

/-! ## Words -/

/-- Letters and digits, at least one of them. -/
structure IsWord (w : String) : Prop where
  ne_empty : w ≠ ""
  alphanumeric : ∀ c ∈ w.toList, isAlphanumeric c = true

lemma isWord_of_mem_wordRuns {s w : String} (h : w ∈ wordRuns s) : IsWord w := by
  obtain ⟨part, hpart, rfl⟩ := List.mem_map.mp h
  obtain ⟨hpart, hne⟩ := List.mem_filter.mp hpart
  refine ⟨by simpa using hne, fun c hc => ?_⟩
  rw [String.toList_ofList] at hc
  simpa using eq_false_of_mem_splitOnP _ part hpart c hc

lemma exists_mem_wordRuns {c : Char} (hc : isAlphanumeric c = true) (s : String) :
    (∃ w ∈ wordRuns s, c ∈ w.toList) ↔ c ∈ s.toList := by
  rw [← exists_mem_splitOnP (p := fun c => !isAlphanumeric c) (by simpa using hc)]
  constructor
  · rintro ⟨w, hw, hmem⟩
    obtain ⟨part, hpart, rfl⟩ := List.mem_map.mp hw
    rw [String.toList_ofList] at hmem
    exact ⟨part, (List.mem_filter.mp hpart).1, hmem⟩
  · rintro ⟨part, hpart, hmem⟩
    have hne : part ≠ [] := List.ne_nil_of_mem hmem
    refine ⟨String.ofList part, ?_, by simpa using hmem⟩
    exact List.mem_map_of_mem (List.mem_filter.mpr ⟨hpart, by simpa using hne⟩)

/-- Words are found again between the spaces that join them. -/
lemma wordRuns_join {words : List String} (h : ∀ w ∈ words, IsWord w) :
    wordRuns (" ".intercalate words) = words := by
  by_cases hnone : words = []
  · subst hnone
    decide
  · have hjoined : (" ".intercalate words).toList = [' '].intercalate (words.map String.toList) :=
      String.toList_intercalate
    have hletters : ∀ part ∈ words.map String.toList, ∀ c ∈ part, (!isAlphanumeric c) = false := by
      rw [List.forall_mem_map]
      intro w hw c hc
      simpa using (h w hw).alphanumeric c hc
    have hnonempty : ∀ part ∈ words.map String.toList, decide (part ≠ []) = true := by
      rw [List.forall_mem_map]
      intro w hw
      simpa using (h w hw).ne_empty
    rw [wordRuns, hjoined, splitOnP_intercalate (by decide) hletters (by simpa using hnone),
      List.filter_eq_self.mpr hnonempty, List.map_map]
    simp [Function.comp_def]

/-! ## Terms -/

lemma mem_searchTerms {s t : String} : t ∈ searchTerms s ↔ ∃ w ∈ wordRuns s, lowerCase w = t := by
  rw [searchTerms, mem_appendNew, List.mem_map]
  simp

lemma toList_lowerCase (w : String) : (lowerCase w).toList = lowerCaseFrom [] w.toList :=
  String.toList_ofList

lemma ne_empty_of_mem_searchTerms {s t : String} (h : t ∈ searchTerms s) : t ≠ "" := by
  obtain ⟨w, hw, rfl⟩ := mem_searchTerms.mp h
  have hne : w.toList ≠ [] := by simpa using (isWord_of_mem_wordRuns hw).ne_empty
  intro hempty
  apply lowerCaseFrom_ne_nil [] hne
  rw [← toList_lowerCase, hempty]
  rfl

/-- The characters of a term keep their case. They are letters and digits but for dots above. -/
lemma of_mem_term {s t : String} (h : t ∈ searchTerms s) :
    ∀ c ∈ t.toList, IsFixed c ∧ (isAlphanumeric c = true ∨ c = '\u0307') := by
  obtain ⟨w, hw, rfl⟩ := mem_searchTerms.mp h
  rw [toList_lowerCase]
  exact of_mem_lowerCaseFrom (isWord_of_mem_wordRuns hw).alphanumeric []

lemma exists_dot_mem_term (s : String) :
    (∃ t ∈ searchTerms s, '\u0307' ∈ t.toList) ↔ 'İ' ∈ s.toList := by
  rw [← exists_mem_wordRuns (by decide +kernel) s]
  have hword {w : String} (hw : w ∈ wordRuns s) :
      '\u0307' ∈ (lowerCase w).toList ↔ 'İ' ∈ w.toList := by
    rw [toList_lowerCase]
    exact dot_mem_lowerCaseFrom (isWord_of_mem_wordRuns hw).alphanumeric []
  constructor
  · rintro ⟨t, ht, hdot⟩
    obtain ⟨w, hw, rfl⟩ := mem_searchTerms.mp ht
    exact ⟨w, hw, (hword hw).mp hdot⟩
  · rintro ⟨w, hw, hcapital⟩
    exact ⟨lowerCase w, mem_searchTerms.mpr ⟨w, hw, rfl⟩, (hword hw).mpr hcapital⟩

lemma isWord_term {s t : String} (hs : 'İ' ∉ s.toList) (ht : t ∈ searchTerms s) : IsWord t := by
  refine ⟨ne_empty_of_mem_searchTerms ht, fun c hc => ?_⟩
  obtain ⟨-, hletter | rfl⟩ := of_mem_term ht c hc
  · exact hletter
  · exact absurd ((exists_dot_mem_term s).mp ⟨t, ht, hc⟩) hs

/-- A text that keeps its case has no term with a dot above. -/
lemma dot_notMem_term {s t : String} (hs : ∀ c ∈ s.toList, IsFixed c ∨ c = ' ')
    (ht : t ∈ searchTerms s) : '\u0307' ∉ t.toList := by
  intro hdot
  rcases hs _ ((exists_dot_mem_term s).mp ⟨t, ht, hdot⟩) with hfixed | hspace
  · revert hfixed
    decide
  · revert hspace
    decide

/-- Different words in lower case are the terms of the text that they make together. -/
lemma searchTerms_join {words : List String} (hwords : ∀ w ∈ words, IsWord w)
    (hfixed : ∀ w ∈ words, ∀ c ∈ w.toList, IsFixed c) (hnodup : words.Nodup) :
    searchTerms (" ".intercalate words) = words := by
  have hlower : words.map lowerCase = words := by
    refine (List.map_congr_left fun w hw => ?_).trans (List.map_id words)
    rw [lowerCase, lowerCaseFrom_of_isFixed (hfixed w hw), String.ofList_toList]
    rfl
  rw [searchTerms, wordRuns_join hwords, hlower]
  exact appendNew_of_nodup hnodup

lemma isFixed_of_mem_join {s : String} :
    ∀ c ∈ (" ".intercalate (searchTerms s)).toList, IsFixed c ∨ c = ' ' := by
  intro c hc
  by_cases hspace : c = ' '
  · exact .inr hspace
  · have hjoined : (" ".intercalate (searchTerms s)).toList =
        [' '].intercalate ((searchTerms s).map String.toList) := String.toList_intercalate
    rw [hjoined, mem_intercalate_of_ne hspace] at hc
    obtain ⟨part, hpart, hmem⟩ := hc
    obtain ⟨t, ht, rfl⟩ := List.mem_map.mp hpart
    exact .inl (of_mem_term ht c hmem).1

/-- The terms of a text are different and not empty, and consist of letters, digits and dots above.
That they consist of letters and digits alone, that each of them has itself as its only term, and
that all of them joined by spaces have the same terms again, is true of the texts without a capital
I with a dot above and of no other. -/
theorem searchTerms_plain_iff (s : String) :
    (searchTerms s).Nodup ∧
    (∀ t ∈ searchTerms s, t ≠ "" ∧ ∀ c ∈ t.toList, isAlphanumeric c = true ∨ c = '\u0307') ∧
    ((∀ t ∈ searchTerms s, ∀ c ∈ t.toList, isAlphanumeric c = true) ↔ 'İ' ∉ s.toList) ∧
    ((∀ t ∈ searchTerms s, searchTerms t = [t]) ↔ 'İ' ∉ s.toList) ∧
    (searchTerms (" ".intercalate (searchTerms s)) = searchTerms s ↔ 'İ' ∉ s.toList) := by
  have hnodup : (searchTerms s).Nodup := nodup_appendNew List.nodup_nil _
  have hfixed : ∀ t ∈ searchTerms s, ∀ c ∈ t.toList, IsFixed c := fun t ht c hc =>
    (of_mem_term ht c hc).1
  refine ⟨hnodup, ?_, ?_, ?_, ?_⟩
  · intro t ht
    exact ⟨ne_empty_of_mem_searchTerms ht, fun c hc => (of_mem_term ht c hc).2⟩
  · constructor
    · intro hplain hcapital
      obtain ⟨t, ht, hdot⟩ := (exists_dot_mem_term s).mpr hcapital
      have hletter := hplain t ht _ hdot
      revert hletter
      decide +kernel
    · exact fun hs t ht => (isWord_term hs ht).alphanumeric
  · constructor
    · intro hstable hcapital
      obtain ⟨t, ht, hdot⟩ := (exists_dot_mem_term s).mpr hcapital
      have hself : t ∈ searchTerms t := by
        rw [hstable t ht]
        exact List.mem_singleton_self t
      exact dot_notMem_term (fun c hc => .inl (hfixed t ht c hc)) hself hdot
    · intro hs t ht
      have hword : ∀ w ∈ [t], IsWord w := by simpa using isWord_term hs ht
      have hkept : ∀ w ∈ [t], ∀ c ∈ w.toList, IsFixed c := by simpa using hfixed t ht
      have hjoined : " ".intercalate [t] = t := rfl
      have hterms := searchTerms_join hword hkept (List.nodup_singleton t)
      rw [hjoined] at hterms
      exact hterms
  · constructor
    · intro hstable hcapital
      obtain ⟨t, ht, hdot⟩ := (exists_dot_mem_term s).mpr hcapital
      rw [← hstable] at ht
      exact dot_notMem_term isFixed_of_mem_join ht hdot
    · exact fun hs => searchTerms_join (fun t ht => isWord_term hs ht) hfixed hnodup

/-- The capital I with a dot above has a term of two characters, the second of which is no letter,
and the term of that term is the first alone. -/
theorem dotted_capital_not_plain :
    searchTerms "İ" = ["i\u0307"] ∧ isAlphanumeric '\u0307' = false ∧
      searchTerms "i\u0307" = ["i"] := by
  decide +kernel

end FacetSearch.Text
