import FacetSearch.Proofs.Sql.Nesting
import Mathlib.Data.List.Chain

/-!
# Operands

What it takes for a text to stand as an operand of a condition: its parentheses are balanced and
never empty, no keyword stands outside them, and every WHERE in it has a condition. Operands
remain operands when they are put side by side or, in parentheses, behind a name; joined by
keywords they make up what may stand in parentheses.
-/

namespace FacetSearch.Sql

section Lexemes

/-- Spaces around each parenthesis. -/
def spread (c : Char) : List Char := if c = '(' ∨ c = ')' then [' ', c, ' '] else [c]

/-- The words of a text, each parenthesis being a word of its own. -/
def lexemes (cs : List Char) : List (List Char) :=
  ((cs.flatMap spread).splitOn ' ').filter (· ≠ [])

variable {a b cs : List Char}

lemma lexemes_append_space (a b : List Char) :
    lexemes (a ++ ' ' :: b) = lexemes a ++ lexemes b := by
  have hspread : (a ++ ' ' :: b).flatMap spread = a.flatMap spread ++ ' ' :: b.flatMap spread := by
    rw [List.flatMap_append, List.flatMap_cons]
    rfl
  rw [lexemes, hspread, List.splitOn, List.splitOnP_append_cons _ _ (by rfl), List.filter_append]
  rfl

lemma lexemes_append_parenthesis {c : Char} (hc : c = '(' ∨ c = ')') (a b : List Char) :
    lexemes (a ++ c :: b) = lexemes a ++ [c] :: lexemes b := by
  have hspread : (a ++ c :: b).flatMap spread =
      a.flatMap spread ++ ' ' :: ([c] ++ ' ' :: b.flatMap spread) := by
    rw [List.flatMap_append, List.flatMap_cons, spread, if_pos hc]
    rfl
  have hc' : ∀ x ∈ [c], (x == ' ') = false := by
    intro x hx
    obtain rfl := List.mem_singleton.mp hx
    rcases hc with rfl | rfl <;> rfl
  rw [lexemes, hspread, List.splitOn, List.splitOnP_append_cons _ _ (by rfl),
    List.splitOnP_append_cons_of_forall_mem hc' ' ' (by rfl), List.filter_append,
    List.filter_cons_of_pos (by simp)]
  rfl

lemma Flat.lexemes_eq (h : Flat cs) : lexemes cs = (cs.splitOn ' ').filter (· ≠ []) := by
  have hspread : cs.flatMap spread = cs := by
    have hsingle : ∀ c ∈ cs, spread c = [c] := by
      intro c hc
      refine if_neg ?_
      rintro (rfl | rfl)
      · exact h.1 hc
      · exact h.2 hc
    rw [List.flatMap_congr hsingle, List.flatMap_singleton']
  rw [lexemes, hspread]

end Lexemes

/-- A word at which a condition may begin. -/
def Opens (l : List Char) : Prop := l ≠ [')'] ∧ l ∉ keywords

/-- A condition begins after each WHERE. -/
structure Complete (ls : List (List Char)) : Prop where
  chain : ls.IsChain fun l m => l = "WHERE".toList → Opens m
  last : ∀ l ∈ ls.getLast?, l ≠ "WHERE".toList

/-- No pair of parentheses is empty. -/
def Filled (cs : List Char) : Prop := cs.IsChain fun c d => ¬ (c = '(' ∧ d = ')')

/-- A text that may stand in parentheses, unless it is empty. -/
structure Content (cs : List Char) : Prop where
  balanced : Balanced cs
  filled : Filled cs
  complete : Complete (lexemes cs)

/-- Content without keywords outside parentheses. -/
structure Operand (cs : List Char) : Prop extends Content cs where
  free : Free cs

/-- An operand that may stand behind WHERE. -/
structure Condition (cs : List Char) : Prop extends Operand cs where
  opens : ∃ l ∈ (lexemes cs).head?, Opens l

section Complete

variable {ls ms : List (List Char)}

lemma complete_of_notMem (h : "WHERE".toList ∉ ls) : Complete ls where
  chain := by
    rw [List.isChain_iff_forall_rel_of_append_cons_cons]
    rintro l m front back hls rfl
    exact absurd (hls ▸ List.mem_append_right front List.mem_cons_self) h
  last := by
    rintro l hl rfl
    exact h (List.mem_of_getLast? hl)

lemma Complete.append (hl : Complete ls) (hm : Complete ms) : Complete (ls ++ ms) where
  chain := by
    rw [List.isChain_append]
    exact ⟨hl.chain, hm.chain, fun l hlast m _ hwhere => absurd hwhere (hl.last l hlast)⟩
  last := by
    intro l hlast
    rw [List.getLast?_append] at hlast
    rcases Option.or_eq_some_iff.mp hlast with hlast | ⟨-, hlast⟩
    · exact hm.last l hlast
    · exact hl.last l hlast

/-- WHERE is complete once a condition begins after it. -/
lemma Complete.cons_where (hl : Complete ls) (hopens : ∃ l ∈ ls.head?, Opens l) :
    Complete ("WHERE".toList :: ls) where
  chain := by
    obtain ⟨m, hm, hopen⟩ := hopens
    rw [List.isChain_cons]
    exact ⟨fun l hl' _ => Option.some.inj (hm.symm.trans hl') ▸ hopen, hl.chain⟩
  last := by
    obtain ⟨m, hm, -⟩ := hopens
    obtain ⟨rest, rfl⟩ := List.head?_eq_some_iff.mp hm
    intro l hlast
    rw [List.getLast?_cons_cons] at hlast
    exact hl.last l hlast

lemma complete_parenthesis {c : Char} (hc : c = '(' ∨ c = ')') : Complete [[c]] := by
  refine complete_of_notMem ?_
  rcases hc with rfl | rfl <;> decide

end Complete

section Flat

variable {cs : List Char}

lemma subset_intercalate {separator w : List Char} {ws : List (List Char)} (hw : w ∈ ws) :
    w ⊆ separator.intercalate ws := by
  induction ws with
  | nil => cases hw
  | cons v ws ih =>
    rcases List.mem_cons.mp hw with rfl | hw
    · cases ws with
      | nil => simp
      | cons u ws => simp [List.intercalate_cons_cons]
    · rw [List.intercalate_cons_of_ne_nil (List.ne_nil_of_mem hw)]
      exact List.Subset.trans (ih hw) (List.subset_append_right _ _)

lemma Flat.mem_splitOn_of_mem_lexemes (h : Flat cs) {l : List Char} (hl : l ∈ lexemes cs) :
    l ∈ cs.splitOn ' ' := by
  rw [h.lexemes_eq] at hl
  exact List.mem_of_mem_filter hl

lemma Flat.filled (h : Flat cs) : Filled cs := by
  rw [Filled, List.isChain_iff_forall_rel_of_append_cons_cons]
  rintro c d front back hcs ⟨rfl, -⟩
  exact h.1 (hcs ▸ List.mem_append_right front List.mem_cons_self)

lemma Flat.content (h : Flat cs) (hwhere : "WHERE".toList ∉ cs.splitOn ' ') : Content cs where
  balanced := h.balanced
  filled := h.filled
  complete := complete_of_notMem fun hmem => hwhere (h.mem_splitOn_of_mem_lexemes hmem)

lemma Flat.operand (h : Flat cs) (hwords : ∀ w ∈ cs.splitOn ' ', w ∉ keywords) : Operand cs where
  toContent := h.content fun hwhere => hwords _ hwhere (by decide)
  free w hw := by
    rw [h.outerWords_eq] at hw
    exact hwords w hw

lemma Flat.opens (h : Flat cs) (hwords : ∀ w ∈ cs.splitOn ' ', w ∉ keywords) :
    ∀ l ∈ lexemes cs, Opens l := by
  intro l hl
  refine ⟨?_, hwords l (h.mem_splitOn_of_mem_lexemes hl)⟩
  rintro rfl
  have hsubset : [')'] ⊆ [' '].intercalate (cs.splitOn ' ') :=
    subset_intercalate (h.mem_splitOn_of_mem_lexemes hl)
  rw [List.intercalate_splitOn] at hsubset
  exact h.2 (hsubset List.mem_cons_self)

end Flat

section Append

variable {a b : List Char}

lemma Balanced.append_space (ha : Balanced a) (hb : Balanced b) : Balanced (a ++ ' ' :: b) := by
  have hspace : Balanced [' '] := Flat.balanced (by decide)
  exact ha.append (hspace.append hb)

lemma Filled.append_space (ha : Filled a) (hb : Filled b) : Filled (a ++ ' ' :: b) := by
  rw [Filled, List.isChain_append, List.isChain_cons]
  exact ⟨ha, ⟨fun d _ h => absurd h.1 (by decide), hb⟩,
    fun c _ d hd h => absurd (Option.some.inj hd ▸ h.2) (by decide)⟩

lemma Content.append_space (ha : Content a) (hb : Content b) : Content (a ++ ' ' :: b) where
  balanced := ha.balanced.append_space hb.balanced
  filled := ha.filled.append_space hb.filled
  complete := by
    rw [lexemes_append_space]
    exact ha.complete.append hb.complete

lemma Operand.append_space (ha : Operand a) (hb : Operand b) : Operand (a ++ ' ' :: b) where
  toContent := ha.toContent.append_space hb.toContent
  free w hw := by
    rw [outerWords_append_space ha.balanced.closed, List.mem_append] at hw
    rcases hw with hw | hw
    · exact ha.free w hw
    · exact hb.free w hw

end Append

section Call

variable {a b h t cs : List Char}

/-- A single word that is no keyword, or nothing at all. -/
structure Plain (w : List Char) : Prop where
  flat : Flat w
  space : ' ' ∉ w
  keyword : w ∉ keywords

instance (w : List Char) : Decidable (Plain w) :=
  decidable_of_iff (Flat w ∧ ' ' ∉ w ∧ w ∉ keywords)
    ⟨fun h => ⟨h.1, h.2.1, h.2.2⟩, fun h => ⟨h.flat, h.space, h.keyword⟩⟩

lemma Plain.splitOn_eq {w : List Char} (hw : Plain w) : w.splitOn ' ' = [w] :=
  List.splitOnP_eq_singleton fun c hc => by
    rw [beq_eq_false_iff_ne]
    rintro rfl
    exact hw.space hc

lemma Plain.words {w : List Char} (hw : Plain w) : ∀ v ∈ w.splitOn ' ', v ∉ keywords := by
  intro v hv
  rw [hw.splitOn_eq, List.mem_singleton] at hv
  exact hv ▸ hw.keyword

lemma Plain.operand {w : List Char} (hw : Plain w) : Operand w := hw.flat.operand hw.words

/-- Content in parentheses, with a word directly before and after them. -/
lemma Content.call (hb : Content b) (hne : b ≠ []) (hh : Plain h) (ht : Plain t) :
    Content (h ++ '(' :: (b ++ ')' :: t)) where
  balanced := by
    have hcall := (hh.flat.balanced.append hb.balanced.enclose).append ht.flat.balanced
    simpa using hcall
  filled := by
    -- Balanced content neither begins with the end of a pair nor ends with its beginning.
    have hinner : Filled (b ++ ')' :: t) := by
      rw [Filled, List.isChain_append, List.isChain_cons]
      exact ⟨hb.filled, ⟨fun d _ hd => absurd hd.1 (by decide), ht.flat.filled⟩,
        fun c hc _ _ hcd => hb.balanced.last_ne c hc hcd.1⟩
    have hopen : Filled ('(' :: (b ++ ')' :: t)) := by
      rw [Filled, List.isChain_cons]
      refine ⟨fun d hd hcd => ?_, hinner⟩
      rw [List.head?_append_of_ne_nil _ hne] at hd
      exact hb.balanced.head_ne d hd hcd.2
    rw [Filled, List.isChain_append]
    refine ⟨hh.flat.filled, hopen, fun c hc d _ hcd => ?_⟩
    exact hh.flat.1 (hcd.1 ▸ List.mem_of_getLast? hc)
  complete := by
    have hclose := (complete_parenthesis (.inr rfl)).append ht.operand.complete
    have hopen := (complete_parenthesis (.inl rfl)).append (hb.complete.append hclose)
    rw [lexemes_append_parenthesis (.inl rfl), lexemes_append_parenthesis (.inr rfl)]
    exact hh.operand.complete.append hopen

lemma depth_ne_zero_of_call (hb : Balanced b) (hh : Plain h) (ht : Plain t) {front back : List Char}
    (hcs : h ++ '(' :: (b ++ ')' :: t) = front ++ ' ' :: back) : depth front ≠ 0 := by
  rcases List.append_eq_append_iff.mp hcs with ⟨u, rfl, hu⟩ | ⟨u, rfl, hu⟩
  · -- The space comes after the name, so the parenthesis is open.
    rcases List.cons_eq_append_iff.mp hu with ⟨-, hspace⟩ | ⟨u, rfl, hinner⟩
    · exact absurd (List.cons.inj hspace).1 (by decide)
    · rcases List.append_eq_append_iff.mp hinner with ⟨v, rfl, hv⟩ | ⟨v, rfl, -⟩
      · rcases List.cons_eq_append_iff.mp hv with ⟨-, hv⟩ | ⟨v, rfl, rfl⟩
        · exact absurd (List.cons.inj hv).1 (by decide)
        · exact absurd (List.mem_append_right v List.mem_cons_self) ht.space
      · have hfront := hb.nonneg u (List.prefix_append u v)
        rw [depth_append, hh.flat.depth_eq, depth_open]
        omega
  · rcases List.cons_eq_append_iff.mp hu with ⟨-, hu⟩ | ⟨u, rfl, -⟩
    · exact absurd (List.cons.inj hu).1 (by decide)
    · exact absurd (List.mem_append_right front List.mem_cons_self) hh.space

lemma Operand.call (hb : Content b) (hne : b ≠ []) (hh : Plain h) (ht : Plain t) :
    Operand (h ++ '(' :: (b ++ ')' :: t)) where
  toContent := hb.call hne hh ht
  free w hw := by
    have hone : outerWords (h ++ '(' :: (b ++ ')' :: t)) = [h ++ '(' :: (b ++ ')' :: t)] := by
      refine wordsFrom_eq_singleton fun front back hcs => ?_
      rw [zero_add]
      exact depth_ne_zero_of_call hb.balanced hh ht hcs
    rw [hone, List.mem_singleton] at hw
    have hparenthesis : ∀ k ∈ keywords, '(' ∉ k := by decide
    exact fun hk => hparenthesis w hk (hw ▸ List.mem_append_right h List.mem_cons_self)

end Call

section Condition

variable {a b cs : List Char}

lemma Condition.ne_nil (h : Condition cs) : cs ≠ [] := by
  rintro rfl
  obtain ⟨l, hl, -⟩ := h.opens
  cases hl

lemma Plain.opens {w : List Char} (hw : Plain w) : ∀ l ∈ lexemes w, Opens l :=
  hw.flat.opens hw.words

lemma Plain.condition {w : List Char} (hw : Plain w) (hne : w ≠ []) : Condition w where
  toOperand := hw.operand
  opens := by
    have hlexemes : lexemes w = [w] := by
      rw [hw.flat.lexemes_eq, hw.splitOn_eq, List.filter_cons_of_pos (by simpa using hne),
        List.filter_nil]
    exact ⟨w, by rw [hlexemes]; rfl, hw.opens w (hlexemes ▸ List.mem_singleton_self w)⟩

lemma Condition.call {h t : List Char} (hb : Content b) (hne : b ≠ []) (hh : Plain h)
    (ht : Plain t) : Condition (h ++ '(' :: (b ++ ')' :: t)) where
  toOperand := Operand.call hb hne hh ht
  opens := by
    rw [lexemes_append_parenthesis (.inl rfl)]
    cases hl : lexemes h with
    | nil => exact ⟨['('], rfl, by decide, by decide⟩
    | cons l ls => exact ⟨l, rfl, hh.opens l (hl ▸ List.mem_cons_self)⟩

/-- Content in parentheses is a condition. -/
lemma Content.enclose (hb : Content b) (hne : b ≠ []) : Condition ('(' :: (b ++ [')'])) :=
  Condition.call hb hne (h := []) (t := []) (by decide) (by decide)

lemma Condition.append_space (hb : Condition b) (ha : Operand a)
    (hopens : ∀ l ∈ lexemes a, Opens l) : Condition (a ++ ' ' :: b) where
  toOperand := ha.append_space hb.toOperand
  opens := by
    rw [lexemes_append_space]
    cases hl : lexemes a with
    | nil => exact hb.opens
    | cons l ls => exact ⟨l, rfl, hopens l (hl ▸ List.mem_cons_self)⟩

lemma Condition.append_operand (ha : Condition a) (hb : Operand b) : Condition (a ++ ' ' :: b) where
  toOperand := ha.toOperand.append_space hb
  opens := by
    obtain ⟨l, hl, hopen⟩ := ha.opens
    rw [lexemes_append_space]
    exact ⟨l, List.mem_head?_append_of_mem_head? hl, hopen⟩

lemma Condition.append_plain {w : List Char} (hb : Condition b) (hw : Plain w) :
    Condition (w ++ ' ' :: b) :=
  hb.append_space hw.operand hw.opens

/-- A WHERE with its condition. -/
lemma Content.restrict (ha : Content a) (hb : Condition b) :
    Content (a ++ ' ' :: ("WHERE".toList ++ ' ' :: b)) := by
  have hflat : Flat "WHERE".toList := by decide
  have hwhere : lexemes "WHERE".toList = ["WHERE".toList] := by decide
  refine ⟨ha.balanced.append_space (hflat.balanced.append_space hb.balanced),
    ha.filled.append_space (hflat.filled.append_space hb.filled), ?_⟩
  rw [lexemes_append_space, lexemes_append_space, hwhere]
  exact ha.complete.append (hb.complete.cons_where hb.opens)

lemma Content.intercalate {k : List Char} (hk : Content k) {l : List (List Char)}
    (h : ∀ s ∈ l, Content s) (hne : l ≠ []) :
    Content ((' ' :: (k ++ [' '])).intercalate l) := by
  match l, h with
  | [], _ => exact absurd rfl hne
  | [s], h => simpa using h s List.mem_cons_self
  | s :: t :: ss, h =>
    have hs := h s List.mem_cons_self
    have hrest := Content.intercalate hk (l := t :: ss)
      (fun u hu => h u (List.mem_cons_of_mem s hu)) (by simp)
    have hjoin := hs.append_space (hk.append_space hrest)
    simpa [List.intercalate_cons_cons] using hjoin

end Condition

section Sound

/-- Parentheses are balanced and not empty, keywords stand within them, and each WHERE has a
condition. -/
structure Sound (s : String) : Prop where
  balanced : Balanced s.toList
  enclosed : ∀ k ∈ keywords, ∀ a b, s.toList = a ++ ' ' :: (k ++ ' ' :: b) → depth a ≠ 0
  filled : ¬ ['(', ')'] <:+: s.toList
  restricted : Complete (lexemes s.toList)

variable {s : String}

lemma Condition.sound (h : Condition s.toList) : Sound s where
  balanced := h.balanced
  enclosed := by
    intro k hk a b hs hdepth
    refine h.free k ?_ hk
    rw [hs, outerWords_append_space hdepth, outerWords_append_space (depth_keyword k hk),
      outerWords_keyword k hk]
    simp
  filled := by
    rintro ⟨front, back, hs⟩
    have htext : s.toList = front ++ '(' :: ')' :: back := by simp [← hs]
    exact List.isChain_iff_forall_rel_of_append_cons_cons.mp h.filled htext ⟨rfl, rfl⟩
  restricted := h.complete

end Sound

end FacetSearch.Sql
