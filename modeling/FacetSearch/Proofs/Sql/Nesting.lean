import Mathlib.Algebra.Order.Ring.Int
import Mathlib.Data.List.Basic

/-!
# Parentheses and operands

How the text of a condition is read: parentheses nest, and the keywords outside them part the text
into operands. Operands without keywords of their own, once joined by keywords, are read back
exactly.
-/

namespace FacetSearch.Sql

section Depth

/-- The number of parentheses that a text opens and does not close. -/
def depth (cs : List Char) : Int := cs.count '(' - cs.count ')'

@[simp] lemma depth_nil : depth [] = 0 := rfl

@[simp] lemma depth_append (a b : List Char) : depth (a ++ b) = depth a + depth b := by
  simp only [depth, List.count_append, Nat.cast_add]
  omega

@[simp] lemma depth_open (cs : List Char) : depth ('(' :: cs) = depth cs + 1 := by
  simp [depth]
  omega

lemma depth_cons (c : Char) (cs : List Char) : depth (c :: cs) = depth [c] + depth cs := by
  rw [← depth_append, List.singleton_append]

@[simp] lemma depth_space (cs : List Char) : depth (' ' :: cs) = depth cs := by
  simp [depth]

/-- A text without parentheses. -/
def Flat (cs : List Char) : Prop := '(' ∉ cs ∧ ')' ∉ cs

instance (cs : List Char) : Decidable (Flat cs) := inferInstanceAs (Decidable (_ ∧ _))

lemma Flat.depth_eq {cs : List Char} (h : Flat cs) : depth cs = 0 := by
  rw [depth, List.count_eq_zero_of_not_mem h.1, List.count_eq_zero_of_not_mem h.2]
  rfl

lemma Flat.of_prefix {a cs : List Char} (h : Flat cs) (ha : a <+: cs) : Flat a :=
  ⟨fun hmem => h.1 (ha.subset hmem), fun hmem => h.2 (ha.subset hmem)⟩

end Depth

section Balanced

/-- Every parenthesis is closed, and none before it is opened. -/
structure Balanced (cs : List Char) : Prop where
  nonneg : ∀ a, a <+: cs → 0 ≤ depth a
  closed : depth cs = 0

variable {a b cs : List Char}

lemma prefix_append_cases {p : List Char} (h : p <+: a ++ b) :
    p <+: a ∨ ∃ q, q <+: b ∧ p = a ++ q := by
  rcases List.prefix_or_prefix_of_prefix h (List.prefix_append a b) with hp | ⟨q, rfl⟩
  · exact .inl hp
  · exact .inr ⟨q, (List.prefix_append_right_inj a).mp h, rfl⟩

lemma Flat.balanced (h : Flat cs) : Balanced cs where
  nonneg _ hp := (h.of_prefix hp).depth_eq.ge
  closed := h.depth_eq

lemma Balanced.append (ha : Balanced a) (hb : Balanced b) : Balanced (a ++ b) where
  nonneg p hp := by
    rcases prefix_append_cases hp with hp | ⟨q, hq, rfl⟩
    · exact ha.nonneg p hp
    · rw [depth_append, ha.closed, zero_add]
      exact hb.nonneg q hq
  closed := by rw [depth_append, ha.closed, hb.closed, add_zero]

lemma Balanced.enclose (h : Balanced cs) : Balanced ('(' :: (cs ++ [')'])) where
  nonneg p hp := by
    rcases List.prefix_cons_iff.mp hp with rfl | ⟨q, rfl, hq⟩
    · exact le_rfl
    · rw [depth_open]
      rcases List.prefix_concat_iff.mp hq with rfl | hq
      · rw [depth_append, h.closed]
        decide
      · exact Int.add_nonneg (h.nonneg q hq) (by decide)
  closed := by
    rw [depth_open, depth_append, h.closed]
    rfl

lemma Balanced.head_ne (h : Balanced cs) : ∀ c ∈ cs.head?, c ≠ ')' := by
  rintro c hc rfl
  obtain ⟨rest, rfl⟩ := List.head?_eq_some_iff.mp hc
  have hfirst := h.nonneg [')'] (List.prefix_append [')'] rest)
  exact absurd hfirst (by decide)

lemma Balanced.last_ne (h : Balanced cs) : ∀ c ∈ cs.getLast?, c ≠ '(' := by
  rintro c hc rfl
  obtain ⟨front, rfl⟩ := List.getLast?_eq_some_iff.mp hc
  have hfront := h.nonneg front (List.prefix_append front ['('])
  have hclosed := h.closed
  rw [depth_append, depth_open, depth_nil] at hclosed
  omega

end Balanced

section Words

/-- The words of a text that stands below `d` parentheses. They end at the spaces outside all
parentheses. -/
def wordsFrom (d : Int) : List Char → List (List Char)
  | [] => [[]]
  | c :: cs =>
    if c = ' ' ∧ d = 0 then [] :: wordsFrom d cs
    else (wordsFrom (d + depth [c]) cs).modifyHead (c :: ·)

/-- The words of a text, with what stands in parentheses as part of a word. -/
def outerWords (cs : List Char) : List (List Char) := wordsFrom 0 cs

variable {a b cs : List Char} {d : Int}

lemma wordsFrom_ne_nil (d : Int) (cs : List Char) : wordsFrom d cs ≠ [] := by
  induction cs generalizing d with
  | nil => simp [wordsFrom]
  | cons c cs ih =>
    rw [wordsFrom]
    split
    · simp
    · intro h
      rw [List.modifyHead_eq_nil_iff] at h
      exact ih _ h

lemma modifyHead_append {α : Type} {as : List α} (h : as ≠ []) (bs : List α) (f : α → α) :
    (as ++ bs).modifyHead f = as.modifyHead f ++ bs := by
  cases as with
  | nil => exact absurd rfl h
  | cons x xs => rfl

lemma wordsFrom_append_space (h : d + depth a = 0) :
    wordsFrom d (a ++ ' ' :: b) = wordsFrom d a ++ wordsFrom 0 b := by
  induction a generalizing d with
  | nil =>
    obtain rfl : d = 0 := by simpa using h
    simp [wordsFrom]
  | cons c a ih =>
    have hrest : d + depth [c] + depth a = 0 := by
      rw [depth_cons] at h
      omega
    -- Whether the first character ends a word does not depend on what follows it.
    rw [List.cons_append, wordsFrom, wordsFrom]
    split
    · next hc =>
      obtain ⟨rfl, rfl⟩ := hc
      rw [ih (by simpa using hrest), List.cons_append]
    · rw [ih hrest, modifyHead_append (wordsFrom_ne_nil _ _)]

lemma outerWords_append_space (h : depth a = 0) :
    outerWords (a ++ ' ' :: b) = outerWords a ++ outerWords b :=
  wordsFrom_append_space (by rw [h, zero_add])

lemma intercalate_modifyHead (c : Char) {ws : List (List Char)} (h : ws ≠ []) :
    [' '].intercalate (ws.modifyHead (c :: ·)) = c :: [' '].intercalate ws := by
  match ws with
  | [] => exact absurd rfl h
  | [w] => simp
  | w :: v :: ws =>
    rw [List.modifyHead_cons, List.intercalate_cons_cons, List.intercalate_cons_cons,
      List.cons_append, List.cons_append]

/-- A text is its words with spaces in between. -/
lemma intercalate_wordsFrom (d : Int) (cs : List Char) :
    [' '].intercalate (wordsFrom d cs) = cs := by
  induction cs generalizing d with
  | nil => rfl
  | cons c cs ih =>
    rw [wordsFrom]
    split
    · next hc =>
      rw [List.intercalate_cons_of_ne_nil (wordsFrom_ne_nil _ _), ih, hc.1]
      rfl
    · rw [intercalate_modifyHead c (wordsFrom_ne_nil _ _), ih]

/-- A text is one word if all its spaces stand in parentheses. -/
lemma wordsFrom_eq_singleton (h : ∀ a b, cs = a ++ ' ' :: b → d + depth a ≠ 0) :
    wordsFrom d cs = [cs] := by
  induction cs generalizing d with
  | nil => rfl
  | cons c cs ih =>
    have hhead : ¬ (c = ' ' ∧ d = 0) := by
      rintro ⟨rfl, rfl⟩
      exact h [] cs rfl (by simp)
    rw [wordsFrom, if_neg hhead, ih, List.modifyHead_cons]
    intro a b hab hdepth
    refine h (c :: a) b (by rw [hab, List.cons_append]) ?_
    rw [depth_cons]
    omega

lemma Flat.outerWords_eq (h : Flat cs) : outerWords cs = cs.splitOn ' ' := by
  rw [outerWords, List.splitOn]
  induction cs with
  | nil => rfl
  | cons c cs ih =>
    have hcs : Flat cs :=
      ⟨fun hmem => h.1 (List.mem_cons_of_mem c hmem), fun hmem => h.2 (List.mem_cons_of_mem c hmem)⟩
    have hc : depth [c] = 0 := (h.of_prefix (List.prefix_append [c] cs)).depth_eq
    rw [wordsFrom, List.splitOnP_cons_eq_if_modifyHead, hc, zero_add, ih hcs]
    simp

end Words

section Operands

/-- The words that part operands. -/
def keywords : List (List Char) := ["AND".toList, "OR".toList, "UNION".toList, "WHERE".toList]

instance (w : List Char) : Decidable (w ∈ keywords) := inferInstance

/-- The texts between the keywords outside parentheses. -/
def operands (s : String) : List String :=
  ((outerWords s.toList).splitOnP (· ∈ keywords)).map fun words =>
    String.ofList ([' '].intercalate words)

/-- The keywords outside parentheses, in order. -/
def joiners (s : String) : List String :=
  ((outerWords s.toList).filter (· ∈ keywords)).map String.ofList

/-- No keyword stands outside parentheses. -/
def Free (cs : List Char) : Prop := ∀ w ∈ outerWords cs, w ∉ keywords

instance (cs : List Char) : Decidable (Free cs) :=
  inferInstanceAs (Decidable (∀ w ∈ outerWords cs, w ∉ keywords))

variable {s t : String} {k : List Char}

lemma outerWords_keyword : ∀ k ∈ keywords, outerWords k = [k] := by decide

lemma depth_keyword : ∀ k ∈ keywords, depth k = 0 := by decide

lemma outerWords_join (hs : depth s.toList = 0) (hk : k ∈ keywords) :
    outerWords (s ++ " " ++ String.ofList k ++ " " ++ t).toList =
      outerWords s.toList ++ k :: outerWords t.toList := by
  have htext : (s ++ " " ++ String.ofList k ++ " " ++ t).toList =
      s.toList ++ ' ' :: (k ++ ' ' :: t.toList) := by simp
  rw [htext, outerWords_append_space hs, outerWords_append_space (depth_keyword k hk),
    outerWords_keyword k hk, List.singleton_append]

lemma Free.operands_eq (h : Free s.toList) : operands s = [s] := by
  have hwords : (outerWords s.toList).splitOnP (· ∈ keywords) = [outerWords s.toList] :=
    List.splitOnP_eq_singleton (by simpa [Free] using h)
  rw [operands, hwords, List.map_singleton, outerWords, intercalate_wordsFrom, String.ofList_toList]

lemma Free.joiners_eq (h : Free s.toList) : joiners s = [] := by
  rw [joiners, List.filter_eq_nil_iff.mpr (by simpa [Free] using h), List.map_nil]

lemma Free.operands_join (h : Free s.toList) (hs : depth s.toList = 0) (hk : k ∈ keywords) :
    operands (s ++ " " ++ String.ofList k ++ " " ++ t) = s :: operands t := by
  have hsplit : (outerWords s.toList ++ k :: outerWords t.toList).splitOnP (· ∈ keywords) =
      outerWords s.toList :: (outerWords t.toList).splitOnP (· ∈ keywords) :=
    List.splitOnP_append_cons_of_forall_mem (by simpa [Free] using h) k (by simpa using hk) _
  rw [operands, outerWords_join hs hk, hsplit, List.map_cons, outerWords, intercalate_wordsFrom,
    String.ofList_toList]
  rfl

lemma Free.joiners_join (h : Free s.toList) (hs : depth s.toList = 0) (hk : k ∈ keywords) :
    joiners (s ++ " " ++ String.ofList k ++ " " ++ t) = String.ofList k :: joiners t := by
  have hnone : (outerWords s.toList).filter (· ∈ keywords) = [] :=
    List.filter_eq_nil_iff.mpr (by simpa [Free] using h)
  rw [joiners, outerWords_join hs hk, List.filter_append, hnone, List.nil_append,
    List.filter_cons_of_pos (by simpa using hk), List.map_cons]
  rfl

/-- Free operands that one keyword joins are read back, with that keyword between any two. -/
lemma operands_intercalate {l : List String} (hne : l ≠ [])
    (h : ∀ s ∈ l, Free s.toList ∧ depth s.toList = 0) (hk : k ∈ keywords) :
    operands ((" " ++ String.ofList k ++ " ").intercalate l) = l ∧
      joiners ((" " ++ String.ofList k ++ " ").intercalate l) =
        List.replicate (l.length - 1) (String.ofList k) := by
  match l, h with
  | [], _ => exact absurd rfl hne
  | [s], h =>
    have hs := (h s List.mem_cons_self).1
    simp [hs.operands_eq, hs.joiners_eq]
  | s :: t :: ss, h =>
    obtain ⟨hs, hdepth⟩ := h s List.mem_cons_self
    obtain ⟨hoperands, hjoiners⟩ := operands_intercalate (l := t :: ss) (by simp)
      (fun u hu => h u (List.mem_cons_of_mem s hu)) hk
    have htext : (" " ++ String.ofList k ++ " ").intercalate (s :: t :: ss) =
        s ++ " " ++ String.ofList k ++ " " ++
          (" " ++ String.ofList k ++ " ").intercalate (t :: ss) := by
      simp [String.append_assoc]
    rw [htext, hs.operands_join hdepth hk, hs.joiners_join hdepth hk, hoperands, hjoiners]
    exact ⟨rfl, rfl⟩

end Operands

end FacetSearch.Sql
