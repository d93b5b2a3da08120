import Mathlib.Data.List.DropRight
import Mathlib.Tactic.Lemma

/-!
# Ends of lists

What is left when some members are dropped from the ends of a list has none of them at its ends,
and a list that has none of them there is left as it is.
-/

namespace FacetSearch

variable {α : Type} {p : α → Bool}

lemma dropWhile_eq_self_iff (as : List α) :
    as.dropWhile p = as ↔ ∀ a ∈ as.head?, p a = false := by
  cases as <;> simp [List.dropWhile_eq_self_iff]

lemma rdropWhile_eq_self_iff (as : List α) :
    as.rdropWhile p = as ↔ ∀ a ∈ as.getLast?, p a = false := by
  rw [List.rdropWhile_eq_self_iff]
  constructor
  · intro h a ha
    obtain ⟨hne, rfl⟩ := List.mem_getLast?_eq_getLast ha
    simpa using h hne
  · intro h hne
    simpa using h _ (List.getLast?_eq_getLast_of_ne_nil hne)

lemma of_mem_getLast?_rdropWhile (as : List α) : ∀ a ∈ (as.rdropWhile p).getLast?, p a = false :=
  (rdropWhile_eq_self_iff _).mp (List.rdropWhile_idempotent p as)

/-- The first member that is left is the first after those dropped in front. -/
lemma of_mem_head?_rdropWhile_dropWhile (as : List α) :
    ∀ a ∈ ((as.dropWhile p).rdropWhile p).head?, p a = false := by
  have hfront : ∀ a ∈ (as.dropWhile p).head?, p a = false :=
    (dropWhile_eq_self_iff _).mp (List.dropWhile_idempotent p as)
  intro a ha
  obtain ⟨rest, hrest⟩ := List.head?_eq_some_iff.mp ha
  obtain ⟨cut, hcut⟩ := List.rdropWhile_prefix p (l := as.dropWhile p)
  rw [← hcut, hrest] at hfront
  exact hfront a rfl

lemma rdropWhile_dropWhile_eq_self_iff (as : List α) :
    (as.dropWhile p).rdropWhile p = as ↔
      (∀ a ∈ as.head?, p a = false) ∧ ∀ a ∈ as.getLast?, p a = false := by
  constructor
  · intro h
    have hfirst := of_mem_head?_rdropWhile_dropWhile (p := p) as
    have hlast := of_mem_getLast?_rdropWhile (p := p) (as.dropWhile p)
    rw [h] at hfirst hlast
    exact ⟨hfirst, hlast⟩
  · rintro ⟨hfirst, hlast⟩
    rw [(dropWhile_eq_self_iff as).mpr hfirst, (rdropWhile_eq_self_iff as).mpr hlast]

end FacetSearch
