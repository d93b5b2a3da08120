import FacetSearch.Proofs.Text.CommaList

/-!
# Ordered sets

An ordered set has the members of a list, each where it first occurs. What is added to such a set
comes after it, and only if it is new, so that it makes no difference whether a list is added
as it is or as an ordered set.
-/

namespace FacetSearch.Text

variable {α : Type} [DecidableEq α]

/-- The members of `occurrences`, each once, in the order in which they first occur. -/
structure FirstOccurrences (occurrences set : List α) : Prop where
  mem_iff (x : α) : x ∈ set ↔ x ∈ occurrences
  ordered : set.Pairwise fun x y => occurrences.idxOf x < occurrences.idxOf y

/-! ## First occurrences -/

namespace FirstOccurrences

variable {occurrences set : List α}

lemma idxOf_append (h : FirstOccurrences occurrences set) (ys : List α) {x : α} (hx : x ∈ set) :
    (occurrences ++ ys).idxOf x = occurrences.idxOf x :=
  List.idxOf_append_of_mem ((h.mem_iff x).mp hx)

lemma insertLast (h : FirstOccurrences occurrences set) (y : α) :
    FirstOccurrences (occurrences ++ [y]) (insertLast set y) where
  mem_iff x := by
    rw [mem_insertLast, h.mem_iff, List.mem_append, List.mem_singleton]
  ordered := by
    have hkept : set.Pairwise fun x z =>
        (occurrences ++ [y]).idxOf x < (occurrences ++ [y]).idxOf z := by
      refine h.ordered.imp_of_mem fun hx hz hlt => ?_
      rwa [h.idxOf_append [y] hx, h.idxOf_append [y] hz]
    rw [Text.insertLast]
    split
    · exact hkept
    · have hnew : y ∉ occurrences := fun hy => ‹y ∉ set› ((h.mem_iff y).mpr hy)
      rw [List.pairwise_append]
      refine ⟨hkept, List.pairwise_singleton _ y, fun x hx z hz => ?_⟩
      obtain rfl := List.mem_singleton.mp hz
      have hbefore : occurrences.idxOf x < occurrences.length :=
        List.idxOf_lt_length_of_mem ((h.mem_iff x).mp hx)
      rw [h.idxOf_append [z] hx, List.idxOf_append_of_notMem hnew]
      omega

lemma appendNew (h : FirstOccurrences occurrences set) (ys : List α) :
    FirstOccurrences (occurrences ++ ys) (appendNew set ys) := by
  induction ys generalizing occurrences set with
  | nil =>
    rw [List.append_nil]
    exact h
  | cons y ys ih =>
    have hstep := ih (h.insertLast y)
    rw [List.append_assoc, List.singleton_append] at hstep
    exact hstep

end FirstOccurrences

lemma firstOccurrences_appendNew (ys : List α) : FirstOccurrences ys (appendNew [] ys) := by
  have hnone : FirstOccurrences ([] : List α) [] := ⟨fun x => Iff.rfl, .nil⟩
  exact hnone.appendNew ys

/-! ## Adding to a set -/

lemma appendNew_append (xs ys zs : List α) :
    appendNew xs (ys ++ zs) = appendNew (appendNew xs ys) zs := List.foldl_append

lemma insertLast_append_filter (xs set : List α) (y : α) :
    insertLast (xs ++ set.filter (· ∉ xs)) y = xs ++ (insertLast set y).filter (· ∉ xs) := by
  by_cases hset : y ∈ set
  · have hthere : y ∈ xs ++ set.filter (· ∉ xs) := by
      by_cases hxs : y ∈ xs
      · exact List.mem_append_left _ hxs
      · exact List.mem_append_right xs (List.mem_filter.mpr ⟨hset, by simpa using hxs⟩)
    rw [insertLast, if_pos hthere, insertLast, if_pos hset]
  · rw [insertLast, insertLast, if_neg hset, List.filter_append]
    by_cases hxs : y ∈ xs
    · rw [if_pos (List.mem_append_left _ hxs), List.filter_singleton]
      simp [hxs]
    · have hnew : y ∉ xs ++ set.filter (· ∉ xs) := by
        rw [List.mem_append, List.mem_filter]
        exact fun h => h.elim hxs fun hmem => hset hmem.1
      rw [if_neg hnew, List.append_assoc, List.filter_singleton]
      simp [hxs]

/-- What is added is the members that are new, as an ordered set. -/
lemma appendNew_eq_append_filter (xs ys : List α) :
    appendNew xs ys = xs ++ (appendNew [] ys).filter (· ∉ xs) := by
  induction ys using List.reverseRecOn with
  | nil => exact (List.append_nil xs).symm
  | append_singleton ys y ih =>
    have hlast (zs : List α) : appendNew zs (ys ++ [y]) = insertLast (appendNew zs ys) y :=
      appendNew_append zs ys [y]
    rw [hlast, hlast, ih, insertLast_append_filter]

lemma appendNew_appendNew (xs ys : List α) : appendNew xs (appendNew [] ys) = appendNew xs ys := by
  have hset : appendNew [] (appendNew [] ys) = appendNew [] ys :=
    appendNew_of_nodup (nodup_appendNew List.nodup_nil ys)
  rw [appendNew_eq_append_filter xs (appendNew [] ys), hset, ← appendNew_eq_append_filter]

/-- Lists may be made ordered sets one by one before they are added. -/
lemma appendNew_flatMap {β : Type} (f : β → List α) (xs : List α) (bs : List β) :
    appendNew xs (bs.flatMap fun b => appendNew [] (f b)) = appendNew xs (bs.flatMap f) := by
  induction bs generalizing xs with
  | nil => rfl
  | cons b bs ih =>
    rw [List.flatMap_cons, List.flatMap_cons, appendNew_append, appendNew_append,
      appendNew_appendNew, ih]

end FacetSearch.Text
