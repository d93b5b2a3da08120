import FacetSearch.Text.CommaList
import FacetSearch.Proofs.Text.Ends
import Mathlib.Data.List.Nodup

/-!
# Reading lists back

A comma-delimited list is an ordered set of items. Its items, joined with commas again, are read
as the same list.
-/

namespace FacetSearch.Text

/-! ## Ordered sets -/

section Append

variable {α : Type} [DecidableEq α]

lemma appendNew_cons (xs : List α) (y : α) (ys : List α) :
    appendNew xs (y :: ys) = appendNew (insertLast xs y) ys := rfl

lemma mem_insertLast {x : α} (xs : List α) (y : α) : x ∈ insertLast xs y ↔ x ∈ xs ∨ x = y := by
  rw [insertLast]
  split
  · exact ⟨.inl, fun h => h.elim id fun heq => heq ▸ ‹y ∈ xs›⟩
  · rw [List.mem_append, List.mem_singleton]

lemma mem_appendNew {x : α} (xs ys : List α) : x ∈ appendNew xs ys ↔ x ∈ xs ∨ x ∈ ys := by
  induction ys generalizing xs with
  | nil => simp [appendNew]
  | cons y ys ih => rw [appendNew_cons, ih, mem_insertLast, List.mem_cons, or_assoc]

lemma nodup_appendNew {xs : List α} (h : xs.Nodup) (ys : List α) : (appendNew xs ys).Nodup := by
  induction ys generalizing xs with
  | nil => exact h
  | cons y ys ih =>
    rw [appendNew_cons, insertLast]
    split
    · exact ih h
    · exact ih (h.append (List.nodup_singleton y) (by simpa using ‹y ∉ xs›))

lemma appendNew_of_nodup {xs ys : List α} (h : (xs ++ ys).Nodup) : appendNew xs ys = xs ++ ys := by
  induction ys generalizing xs with
  | nil => exact (List.append_nil xs).symm
  | cons y ys ih =>
    have hnew : y ∉ xs := fun hmem => (List.nodup_append.mp h).2.2 y hmem y List.mem_cons_self rfl
    rw [appendNew_cons, insertLast, if_neg hnew, ih (by simpa using h), List.append_assoc]
    rfl

end Append

/-! ## Parts without commas -/

lemma eq_false_of_mem_splitOnP {α : Type} {p : α → Bool} (as : List α) :
    ∀ part ∈ as.splitOnP p, ∀ a ∈ part, p a = false := by
  induction as with
  | nil => simp
  | cons a as ih =>
    rw [List.splitOnP_cons_eq_if_modifyHead]
    split
    · simpa using ih
    · have ha : p a = false := by simpa using ‹¬ p a = true›
      cases hparts : as.splitOnP p with
      | nil => simp
      | cons first rest =>
        rw [hparts, List.forall_mem_cons] at ih
        rw [List.modifyHead_cons, List.forall_mem_cons, List.forall_mem_cons]
        exact ⟨⟨ha, ih.1⟩, ih.2⟩

lemma notMem_of_mem_splitOn {c : Char} {cs part : List Char} (h : part ∈ cs.splitOn c) :
    c ∉ part := by
  intro hc
  have hfalse : (c == c) = false := eq_false_of_mem_splitOnP cs part h c hc
  simp at hfalse

/-! ## Trimming -/

lemma trimChars_subset (cs : List Char) : trimChars cs ⊆ cs := by
  intro c hc
  rw [trimChars, List.mem_reverse] at hc
  exact List.dropWhile_subset _ (List.mem_reverse.mp (List.dropWhile_subset _ hc))

lemma trimChars_eq_self_iff (cs : List Char) :
    trimChars cs = cs ↔ (∀ c ∈ cs.head?, isWhiteSpace c = false) ∧
      ∀ c ∈ cs.getLast?, isWhiteSpace c = false := rdropWhile_dropWhile_eq_self_iff cs

/-- Nothing is left to be trimmed. -/
@[simp] lemma trimChars_trimChars (cs : List Char) : trimChars (trimChars cs) = trimChars cs :=
  (trimChars_eq_self_iff _).mpr
    ⟨of_mem_head?_rdropWhile_dropWhile cs, of_mem_getLast?_rdropWhile _⟩

@[simp] lemma trim_trim (s : String) : trim (trim s) = trim s := by
  rw [trim, trim, String.toList_ofList, trimChars_trimChars]

/-! ## Items -/

/-- A text that can be an item of a list: not empty, without a comma, and without white space at
its ends. -/
structure IsItem (s : String) : Prop where
  ne_empty : s ≠ ""
  comma_notMem : ',' ∉ s.toList
  trimmed : trimChars s.toList = s.toList

/-- Different items, as a comma-delimited list has them. -/
structure IsItemList (items : List String) : Prop where
  isItem : ∀ s ∈ items, IsItem s
  nodup : items.Nodup

lemma isItem_of_mem_commaItems {s item : String} (h : item ∈ commaItems s) : IsItem item := by
  rw [commaItems, List.mem_filter, List.mem_map] at h
  obtain ⟨⟨part, hpart, rfl⟩, hne⟩ := h
  refine ⟨of_decide_eq_true hne, ?_, ?_⟩
  · rw [String.toList_ofList]
    exact fun hmem => notMem_of_mem_splitOn hpart (trimChars_subset part hmem)
  · rw [String.toList_ofList, trimChars_trimChars]

lemma isItemList_splitList (s : String) : IsItemList (splitList s) where
  isItem item hitem := by
    rw [splitList, mem_appendNew] at hitem
    exact isItem_of_mem_commaItems (hitem.resolve_left List.not_mem_nil)
  nodup := nodup_appendNew List.nodup_nil _

/-- The items of a text are those before a comma in it, then those after it. -/
lemma commaItems_append (a b : String) :
    commaItems (a ++ "," ++ b) = commaItems a ++ commaItems b := by
  have hchars : (a ++ "," ++ b).toList = a.toList ++ ',' :: b.toList := by simp
  rw [commaItems, hchars, List.splitOn_append_cons_self, List.map_append, List.filter_append]
  rfl

lemma commaItems_intercalate (texts : List String) :
    commaItems (",".intercalate texts) = texts.flatMap commaItems := by
  induction texts with
  | nil => decide
  | cons text texts ih =>
    cases texts with
    | nil => exact (List.flatMap_singleton commaItems text).symm
    | cons next rest =>
      rw [String.intercalate_cons_cons, commaItems_append, ih]
      rfl

lemma commaItems_of_isItem {s : String} (h : IsItem s) : commaItems s = [s] := by
  rw [commaItems, List.splitOn_eq_singleton h.comma_notMem, List.map_singleton, h.trimmed,
    String.ofList_toList]
  exact List.filter_eq_self.mpr (by simpa using h.ne_empty)

/-- Items joined with commas are read as these items. -/
lemma commaItems_join {items : List String} (h : ∀ s ∈ items, IsItem s) :
    commaItems (",".intercalate items) = items := by
  rw [commaItems_intercalate]
  induction items with
  | nil => rfl
  | cons item items ih =>
    obtain ⟨hitem, hitems⟩ := List.forall_mem_cons.mp h
    rw [List.flatMap_cons, commaItems_of_isItem hitem, ih hitems, List.singleton_append]

theorem splitList_join {items : List String} (h : IsItemList items) :
    splitList (",".intercalate items) = items := by
  rw [splitList, commaItems_join h.isItem]
  exact appendNew_of_nodup h.nodup

end FacetSearch.Text
