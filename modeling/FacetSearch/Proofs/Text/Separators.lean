import FacetSearch.Proofs.Text.OrderedSet

/-!
# Separators around items

Commas and white space before and after a text make no items, and change none. An item is a text
that is read as itself alone, and has neither at its ends.
-/

namespace FacetSearch.Text

/-! ## White space at the ends -/

lemma trimChars_append_left {before : List Char} (h : ∀ c ∈ before, isWhiteSpace c = true)
    (cs : List Char) : trimChars (before ++ cs) = trimChars cs := by
  rw [trimChars, List.dropWhile_append_of_pos h, ← trimChars]

lemma trimChars_append_right {after : List Char} (h : ∀ c ∈ after, isWhiteSpace c = true)
    (cs : List Char) : trimChars (cs ++ after) = trimChars cs := by
  have hreverse : ∀ c ∈ after.reverse, isWhiteSpace c = true := fun c hc =>
    h c (List.mem_reverse.mp hc)
  rw [trimChars, trimChars, List.dropWhile_append]
  split
  · have hnone : cs.dropWhile isWhiteSpace = [] := List.isEmpty_iff.mp ‹_›
    rw [hnone, List.dropWhile_eq_nil_iff.mpr h]
  · rw [List.reverse_append, List.dropWhile_append_of_pos hreverse]

/-! ## Items -/

/-- A text that is not blank, and has no comma in it and no white space at its ends. -/
structure IsTidy (s : String) : Prop where
  not_blank : isBlank s = false
  comma_notMem : ',' ∉ s.toList
  first : ∀ c ∈ s.toList.head?, isWhiteSpace c = false
  last : ∀ c ∈ s.toList.getLast?, isWhiteSpace c = false

lemma isItem_iff_isTidy (s : String) : IsItem s ↔ IsTidy s := by
  constructor
  · intro h
    have hends := (trimChars_eq_self_iff s.toList).mp h.trimmed
    refine ⟨?_, h.comma_notMem, hends.1, hends.2⟩
    cases hchars : s.toList with
    | nil => exact absurd (String.toList_eq_nil_iff.mp hchars) h.ne_empty
    | cons c cs =>
      have hc : isWhiteSpace c = false := hends.1 c (by rw [hchars]; rfl)
      rw [isBlank, hchars, List.all_cons, hc, Bool.false_and]
  · intro h
    refine ⟨?_, h.comma_notMem, (trimChars_eq_self_iff s.toList).mpr ⟨h.first, h.last⟩⟩
    rintro rfl
    cases h.not_blank

/-- The items of lists are the texts that are read as themselves alone. -/
lemma splitList_eq_singleton_iff (s : String) : splitList s = [s] ↔ IsTidy s := by
  rw [← isItem_iff_isTidy]
  constructor
  · intro h
    exact (isItemList_splitList s).isItem s (h ▸ List.mem_singleton_self s)
  · intro h
    rw [splitList, commaItems_of_isItem h]
    rfl

/-! ## Separators -/

lemma commaItems_of_notMem {s : String} (h : ',' ∉ s.toList) :
    commaItems s = [trim s].filter (· ≠ "") := by
  rw [commaItems, List.splitOn_eq_singleton h]
  rfl

lemma isBlank_empty : isBlank "" = true := rfl

lemma comma_notMem_of_isBlank {s : String} (h : isBlank s = true) : ',' ∉ s.toList := by
  intro hcomma
  have hwhite : isWhiteSpace ',' = true := List.all_eq_true.mp h ',' hcomma
  revert hwhite
  decide

/-- A text is its part before the first comma and a shorter text after it, or has no comma. -/
@[elab_as_elim]
lemma parts_induction {motive : String → Prop} (part : ∀ s : String, ',' ∉ s.toList → motive s)
    (join : ∀ s t : String, ',' ∉ s.toList → motive t → motive (s ++ "," ++ t)) (s : String) :
    motive s := by
  by_cases hs : ',' ∈ s.toList
  · obtain ⟨cs, ds, hchars, hcs⟩ := List.eq_append_cons_of_mem hs
    have hwhole : s = .ofList cs ++ "," ++ .ofList ds := by
      rw [← String.toList_inj, hchars]
      simp
    have hshorter : ds.length < s.length := by
      rw [← String.length_toList, hchars, List.length_append, List.length_cons]
      omega
    rw [hwhole]
    exact join _ _ (by simpa using hcs) (parts_induction part join (.ofList ds))
  · exact part s hs
termination_by s.length

lemma commaItems_between_blanks_of_notMem {before after part : String}
    (hbefore : isBlank before = true) (hafter : isBlank after = true) (hpart : ',' ∉ part.toList) :
    commaItems (before ++ part ++ after) = commaItems part := by
  have hwhole : ',' ∉ (before ++ part ++ after).toList := by
    have hb := comma_notMem_of_isBlank hbefore
    have ha := comma_notMem_of_isBlank hafter
    simp [hb, hpart, ha]
  rw [commaItems_of_notMem hwhole, commaItems_of_notMem hpart, trim, String.toList_append,
    String.toList_append, trimChars_append_right (List.all_eq_true.mp hafter),
    trimChars_append_left (List.all_eq_true.mp hbefore), ← trim]

/-- White space before a text is trimmed from its first part, and white space after it from its
last. -/
lemma commaItems_between_blanks {before after : String} (hbefore : isBlank before = true)
    (hafter : isBlank after = true) (s : String) :
    commaItems (before ++ s ++ after) = commaItems s := by
  induction s using parts_induction generalizing before with
  | part s hs => exact commaItems_between_blanks_of_notMem hbefore hafter hs
  | join s t hs ih =>
    have hfirst : commaItems (before ++ s) = commaItems s := by
      simpa using commaItems_between_blanks_of_notMem hbefore isBlank_empty hs
    have hrest : commaItems (t ++ after) = commaItems t := by
      simpa using ih isBlank_empty
    have hwhole : before ++ (s ++ "," ++ t) ++ after = (before ++ s) ++ "," ++ (t ++ after) := by
      simp only [String.append_assoc]
    rw [hwhole, commaItems_append, hfirst, hrest, commaItems_append]

/-- One more separator on either side changes no item. -/
lemma commaItems_separator {c : Char} (h : c = ',' ∨ isWhiteSpace c = true) (s : String) :
    commaItems (.singleton c ++ s) = commaItems s ∧ commaItems (s ++ .singleton c) = commaItems s := by
  rcases h with rfl | hwhite
  · have hafter := commaItems_append s ""
    rw [String.append_empty] at hafter
    exact ⟨commaItems_append "" s, hafter.trans (List.append_nil _)⟩
  · have hblank : isBlank (.singleton c) = true := by simpa [isBlank] using hwhite
    have hbefore := commaItems_between_blanks hblank isBlank_empty s
    have hafter := commaItems_between_blanks isBlank_empty hblank s
    rw [String.append_empty] at hbefore
    rw [String.empty_append] at hafter
    exact ⟨hbefore, hafter⟩

/-- The second text is the first with commas and white space around it. -/
def Surrounds (s t : String) : Prop :=
  ∃ before after : String, t = before ++ s ++ after ∧
    ∀ c ∈ before.toList ++ after.toList, c = ',' ∨ isWhiteSpace c = true

lemma Surrounds.commaItems_eq {s t : String} (h : Surrounds s t) : commaItems t = commaItems s := by
  obtain ⟨before, after, rfl, hseparators⟩ := h
  obtain ⟨hbefore, hafter⟩ := List.forall_mem_append.mp hseparators
  rw [← String.ofList_toList (s := before), ← String.ofList_toList (s := after)]
  generalize before.toList = cs at hbefore
  generalize after.toList = ds at hafter
  induction cs with
  | nil =>
    rw [String.ofList_nil, String.empty_append]
    induction ds generalizing s with
    | nil => rw [String.ofList_nil, String.append_empty]
    | cons d ds ih =>
      obtain ⟨hd, hds⟩ := List.forall_mem_cons.mp hafter
      rw [String.ofList_cons, ← String.append_assoc, ih hds, (commaItems_separator hd s).2]
  | cons c cs ih =>
    obtain ⟨hc, hcs⟩ := List.forall_mem_cons.mp hbefore
    rw [String.ofList_cons, String.append_assoc, String.append_assoc, (commaItems_separator hc _).1,
      ← String.append_assoc, ih hcs]

/-- Whatever separators surround the texts that are joined, the items are the same. -/
lemma commaItems_of_surrounds {texts texts' : List String} (h : List.Forall₂ Surrounds texts texts') :
    commaItems (",".intercalate texts') = commaItems (",".intercalate texts) := by
  rw [commaItems_intercalate, commaItems_intercalate]
  induction h with
  | nil => rfl
  | cons hfirst _ ih => rw [List.flatMap_cons, List.flatMap_cons, hfirst.commaItems_eq, ih]

end FacetSearch.Text
