import FacetSearch.Json.Number
import Mathlib.Data.List.TakeWhile
import Mathlib.Tactic.Lemma

/-!
# Written integers

An integer is written by its decimal digits without a leading zero, and read back from them.
-/

namespace FacetSearch

namespace JsonNumber

lemma isDigit_of_mem_toDigits {n : Nat} : ∀ c ∈ Nat.toDigits 10 n, c.isDigit = true :=
  fun _ => Nat.isDigit_of_mem_toDigits (by decide) (by decide)

/-- Only zero begins with the digit zero. -/
lemma exists_toDigits_eq_cons {n : Nat} (h : 0 < n) :
    ∃ c cs, Nat.toDigits 10 n = c :: cs ∧ c ≠ '0' := by
  induction n using Nat.strongRecOn with
  | ind n ih =>
    by_cases hsmall : n < 10
    · have hdigit : ∀ m < 10, 0 < m → Nat.digitChar m ≠ '0' := by decide
      exact ⟨Nat.digitChar n, [], Nat.toDigits_of_lt_base hsmall, hdigit n hsmall h⟩
    · obtain ⟨c, cs, hdigits, hc⟩ := ih (n / 10) (by omega) (by omega)
      refine ⟨c, cs ++ [Nat.digitChar (n % 10)], ?_, hc⟩
      rw [Nat.toDigits_of_base_le (by decide) (by omega), hdigits, List.cons_append]

/-- The digits of a number have the form that JSON asks for. -/
lemma toDigits_cases (n : Nat) :
    Nat.toDigits 10 n = ['0'] ∨ ∃ c cs, Nat.toDigits 10 n = c :: cs ∧ c ≠ '0' := by
  rcases Nat.eq_zero_or_pos n with rfl | h
  · exact .inl (Nat.toDigits_zero 10)
  · exact .inr (exists_toDigits_eq_cons h)

lemma spanDigits_toDigits (n : Nat) :
    spanDigits (Nat.toDigits 10 n) = (Nat.toDigits 10 n, []) := by
  rw [spanDigits, List.takeWhile_eq_self_iff.mpr isDigit_of_mem_toDigits,
    List.dropWhile_eq_nil_iff.mpr isDigit_of_mem_toDigits]

lemma parts?_minus_toDigits (n : Nat) :
    parts? ('-' :: Nat.toDigits 10 n) = some ⟨true, Nat.toDigits 10 n, none, none⟩ := by
  simp only [parts?, spanDigits_toDigits]
  rcases toDigits_cases n with hzero | ⟨c, cs, hdigits, hc⟩
  · rw [hzero]
    rfl
  · simp [hdigits, hc, tailParts?]

lemma parts?_toDigits (n : Nat) :
    parts? (Nat.toDigits 10 n) = some ⟨false, Nat.toDigits 10 n, none, none⟩ := by
  have hminus : '-' ∉ Nat.toDigits 10 n := fun hmem =>
    absurd (isDigit_of_mem_toDigits _ hmem) (by decide)
  have hspan := spanDigits_toDigits n
  rcases toDigits_cases n with hzero | ⟨c, cs, hdigits, hc⟩
  · rw [hzero]
    rfl
  · rw [hdigits] at hminus hspan ⊢
    have hsign : c ≠ '-' := fun heq => hminus (heq ▸ List.mem_cons_self)
    simp [parts?, hsign, hspan, hc, tailParts?]

lemma digitsValue_toDigits (n : Nat) : digitsValue (Nat.toDigits 10 n) = n := by
  have hfold (cs : List Char) (m : Nat) :
      cs.foldl (fun n c => n * 10 + digitValue c) m = Nat.ofDigitChars 10 cs m := by
    rw [Nat.ofDigitChars_eq_foldl]
    simp only [digitValue, Nat.mul_comm]
  rw [digitsValue, hfold, Nat.ofDigitChars_ten_toDigits]

lemma toList_toString (n : Int) : (toString n).toList =
    if 0 ≤ n then Nat.toDigits 10 n.toNat else '-' :: Nat.toDigits 10 (-n).toNat := by
  rw [Int.toString_eq_repr, Int.repr_eq_if]
  split <;> simp

/-- After the first character, which may be a minus sign, there are only digits. -/
lemma exists_toList_toString_eq (n : Int) : ∃ c cs, (toString n).toList = c :: cs ∧
    (c.isDigit = true ∨ c = '-') ∧ ∀ d ∈ cs, d.isDigit = true := by
  rw [toList_toString]
  by_cases hn : 0 ≤ n
  · have hne : Nat.toDigits 10 n.toNat ≠ [] := Nat.toDigits_ne_nil
    obtain ⟨c, cs, hdigits⟩ := List.exists_cons_of_ne_nil hne
    have hall := isDigit_of_mem_toDigits (n := n.toNat)
    rw [if_pos hn, hdigits]
    rw [hdigits, List.forall_mem_cons] at hall
    exact ⟨c, cs, rfl, .inl hall.1, hall.2⟩
  · rw [if_neg hn]
    exact ⟨'-', _, rfl, .inr rfl, isDigit_of_mem_toDigits⟩

/-- The integers of 64 bits, with or without a sign, are read back from their text. -/
theorem ofChars?_toString {n : Int} (h : -0x8000000000000000 ≤ n ∧ n < 0x10000000000000000) :
    ofChars? (toString n).toList = some (.int n) := by
  rw [toList_toString]
  by_cases hn : 0 ≤ n
  · have hfits : n.toNat < 0x10000000000000000 := by omega
    have hvalue : (n.toNat : Int) = n := Int.toNat_of_nonneg hn
    rw [if_pos hn, ofChars?, parts?_toDigits, Option.bind_some, ofParts?]
    simp only [digitsValue_toDigits, hfits, hvalue]
    rfl
  · have hfits : 0 < (-n).toNat ∧ (-n).toNat ≤ 0x8000000000000000 := by omega
    have hvalue : -((-n).toNat : Int) = n := by omega
    rw [if_neg hn, ofChars?, parts?_minus_toDigits, Option.bind_some, ofParts?]
    simp only [digitsValue_toDigits, hfits, hvalue]
    rfl

end JsonNumber

end FacetSearch
