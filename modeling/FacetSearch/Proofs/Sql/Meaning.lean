import FacetSearch.Database.Basic
import FacetSearch.Proofs.Sql.Fragment
import FacetSearch.Proofs.Sql.Like
import FacetSearch.Proofs.Sql.Truth
import FacetSearch.Text.Words
import Mathlib.Data.String.Basic
import Mathlib.Logic.Basic

/-!
# The meaning of conditions and orders

A condition is true, false or unknown on a row. Parts that constrain nothing are left out, in the
meaning as in the SQL. An order gives a row the cells by which it is sorted.
-/

namespace FacetSearch

/-- How the database compares texts. -/
structure TextRules where
  /-- Characters that differ in nothing but case. -/
  sameLetter : Char → Char → Bool
  sameLetter_equivalence : Equivalence fun c d => sameLetter c d = true
  /-- The words of a text for full-text search. -/
  words : String → List String
  /-- The order of texts, in which texts may be level. -/
  notAfter : String → String → Bool
  notAfter_total : ∀ s t, notAfter s t = true ∨ notAfter t s = true
  notAfter_trans : ∀ s t u, notAfter s t = true → notAfter t u = true → notAfter s u = true

namespace TextRules

variable (rules : TextRules)

/-- `text ILIKE pattern` -/
def like (pattern text : String) : Bool :=
  likeMatches rules.sameLetter pattern.toList text.toList

/-- Some part of the text is the term up to case. -/
def Contains (text term : String) : Prop :=
  ∃ before part after, text.toList = before ++ part ++ after ∧
    List.Forall₂ (fun c d => rules.sameLetter c d = true) term.toList part

/-- Some word of the text begins with one of the terms. -/
def hasWord (terms : List String) (text : String) : Bool :=
  (rules.words text).any fun word => terms.any fun term => term.toList.isPrefixOf word.toList

/-- Letters of ASCII without regard to case, words as in free text, and texts by their
characters. -/
def ascii : TextRules where
  sameLetter c d := c.toLower == d.toLower
  sameLetter_equivalence := by
    refine ⟨fun c => beq_self_eq_true _, fun h => ?_, fun h k => ?_⟩
    · rw [beq_iff_eq] at h ⊢
      exact h.symm
    · rw [beq_iff_eq] at h k ⊢
      exact h.trans k
  words := Text.searchTerms
  notAfter s t := decide (s ≤ t)
  notAfter_total s t := by
    rw [decide_eq_true_iff, decide_eq_true_iff]
    exact le_total s t
  notAfter_trans s t u := by
    rw [decide_eq_true_iff, decide_eq_true_iff, decide_eq_true_iff]
    exact le_trans

lemma like_likeContains {term text : String} :
    rules.like (Text.likeContains term) text = true ↔ rules.Contains text term :=
  likeMatches_likeContains

end TextRules

/-- A row with the names that its columns have in a statement. -/
abbrev Tuple := List (String × Cell)

/-- The cell of a column. -/
def Tuple.cell (t : Tuple) (column : String) : Cell := (t.lookup column).getD .null

namespace Cell

def like (rules : TextRules) (pattern : String) : Cell → Truth
  | text s => .ofBool (rules.like pattern s)
  | _ => .unknown

def hasWord (rules : TextRules) (terms : List String) : Cell → Truth
  | text s => .ofBool (rules.hasWord terms s)
  | _ => .unknown

def equals : Cell → Cell → Truth
  | text s, text t => .ofBool (s == t)
  | bigint m, bigint n => .ofBool (m == n)
  | _, _ => .unknown

/-- Equality with one of the cells. -/
def isAmong (c : Cell) (cells : List Cell) : Truth := .any (cells.map c.equals)

/-- The ascending order of cells, NULL last. -/
def notAfter (rules : TextRules) : Cell → Cell → Bool
  | _, null => true
  | null, _ => false
  | bigint m, bigint n => decide (m ≤ n)
  | text s, text t => rules.notAfter s t
  | bigint _, text _ => true
  | text _, bigint _ => false

end Cell

namespace Cell

lemma isAmong_text (v : String) (values : List String) :
    (text v).isAmong (values.map text) = .ofBool (decide (v ∈ values)) := by
  have hany := Truth.any_map_ofBool (fun w => v == w) values
  rw [List.any_beq, List.contains_eq_mem] at hany
  rw [isAmong, List.map_map]
  exact hany

lemma isAmong_bigint (n : Int) (ids : List Int) :
    (bigint n).isAmong (ids.map bigint) = .ofBool (decide (n ∈ ids)) := by
  have hany := Truth.any_map_ofBool (fun m => n == m) ids
  rw [List.any_beq, List.contains_eq_mem] at hany
  rw [isAmong, List.map_map]
  exact hany

end Cell

/-- What the head of a sub-select ranges over: the rows of its relation, each with the cell that
is selected from it. -/
abbrev Heads := String → List (Cell × Tuple)

namespace Predicate

mutual

/-- The truth of a condition on a row, unless it constrains nothing. -/
def truth? (rules : TextRules) (heads : Heads) (t : Tuple) : Predicate → Option Truth
  | like column patterns negated =>
    if patterns.isEmpty then none
    else some (if negated then .all (patterns.map fun p => ((t.cell column).like rules p).not)
      else .any (patterns.map fun p => (t.cell column).like rules p))
  | anyOf column values negated =>
    if values.isEmpty then none
    else some (if negated then .all (values.map fun v => ((t.cell column).equals (.text v)).not)
      else (t.cell column).isAmong (values.map .text))
  | idIn column ids => some ((t.cell column).isAmong (ids.map .bigint))
  | membership column selects negated =>
    if selects.isEmpty then none
    else some (if negated then ((t.cell column).isAmong (selectedByAny rules heads t selects)).not
      else (t.cell column).isAmong (selectedByAny rules heads t selects))
  | prefixMatch column terms =>
    some (if terms.isEmpty then .no else (t.cell column).hasWord rules terms)
  | and parts =>
    if (truths rules heads t parts).isEmpty then none else some (.all (truths rules heads t parts))
  | or parts =>
    if (truths rules heads t parts).isEmpty then none else some (.any (truths rules heads t parts))

/-- The truth of those conditions that constrain something. -/
def truths (rules : TextRules) (heads : Heads) (t : Tuple) : List Predicate → List Truth
  | [] => []
  | p :: ps => (p.truth? rules heads t).toList ++ truths rules heads t ps

/-- The cells of a sub-select. Its condition is about a row of its own relation, and about the
outer row where that one lacks a column. -/
def selectedBy (rules : TextRules) (heads : Heads) (t : Tuple) : SubSelect → List Cell
  | .whole head => (heads head).map Prod.fst
  | .filtered head filter =>
    ((heads head).filter fun row => Truth.keeps (filter.truth? rules heads (row.2 ++ t))).map
      Prod.fst

def selectedByAny (rules : TextRules) (heads : Heads) (t : Tuple) : List SubSelect → List Cell
  | [] => []
  | s :: ss => selectedBy rules heads t s ++ selectedByAny rules heads t ss

end

/-- Whether a condition keeps a row. -/
def holds (rules : TextRules) (heads : Heads) (t : Tuple) (p : Predicate) : Bool :=
  Truth.keeps (p.truth? rules heads t)

section Truths

variable (rules : TextRules) (heads : Heads) (t : Tuple)

/-- A `WHERE` clause over several conditions keeps what all of them keep. -/
lemma all_truths_eq_yes {ps : List Predicate} :
    Truth.all (truths rules heads t ps) = .yes ↔ ∀ p ∈ ps, p.holds rules heads t = true := by
  induction ps with
  | nil => simp [truths, Truth.all]
  | cons p ps ih =>
    rw [truths, List.forall_mem_cons, ← ih, holds]
    cases p.truth? rules heads t with
    | none => simp
    | some truth => simp [Truth.all]

variable {rules heads t} {column : String}

lemma holds_and {ps : List Predicate} :
    (and ps).holds rules heads t = true ↔ ∀ p ∈ ps, p.holds rules heads t = true := by
  rw [← all_truths_eq_yes, holds, truth?]
  cases truths rules heads t ps with
  | nil => simp [Truth.all]
  | cons truth ts => exact Truth.keeps_some

lemma holds_like {v : String} (hv : t.cell column = .text v) {patterns : List String}
    (hne : patterns ≠ []) :
    (like column patterns false).holds rules heads t = true ↔
      ∃ pattern ∈ patterns, rules.like pattern v = true := by
  have hempty : patterns.isEmpty = false := by simpa using hne
  rw [holds, truth?, hempty, hv]
  simp only [Bool.false_eq_true, if_false, Truth.keeps_some, Cell.like]
  rw [Truth.any_map_ofBool, Truth.ofBool_eq_yes, List.any_eq_true]

lemma holds_not_like {v : String} (hv : t.cell column = .text v) {patterns : List String} :
    (like column patterns true).holds rules heads t = true ↔
      ∀ pattern ∈ patterns, ¬ rules.like pattern v = true := by
  rw [holds, truth?, hv]
  cases patterns with
  | nil => simp
  | cons pattern patterns =>
    simp only [List.isEmpty_cons, Bool.false_eq_true, if_false, if_true, Truth.keeps_some,
      Truth.all_eq_yes, List.forall_mem_map, Cell.like, Truth.not_eq_yes, Truth.ofBool_eq_no,
      Bool.not_eq_true]

lemma holds_anyOf {v : String} (hv : t.cell column = .text v) {values : List String}
    (hne : values ≠ []) :
    (anyOf column values false).holds rules heads t = true ↔ v ∈ values := by
  have hempty : values.isEmpty = false := by simpa using hne
  rw [holds, truth?, hempty, hv]
  simp only [Bool.false_eq_true, if_false, Truth.keeps_some, Cell.isAmong_text,
    Truth.ofBool_eq_yes, decide_eq_true_eq]

lemma holds_not_anyOf {v : String} (hv : t.cell column = .text v) {values : List String} :
    (anyOf column values true).holds rules heads t = true ↔ v ∉ values := by
  rw [holds, truth?, hv]
  cases values with
  | nil => simp
  | cons value values =>
    simp only [List.isEmpty_cons, Bool.false_eq_true, if_false, if_true, Truth.keeps_some,
      Truth.all_eq_yes, List.forall_mem_map, Cell.equals, Truth.not_eq_yes, Truth.ofBool_eq_no,
      beq_eq_false_iff_ne]
    exact List.forall_mem_ne

lemma holds_idIn {n : Int} (hn : t.cell column = .bigint n) {ids : List Int} :
    (idIn column ids).holds rules heads t = true ↔ n ∈ ids := by
  rw [holds, truth?, hn, Truth.keeps_some, Cell.isAmong_bigint, Truth.ofBool_eq_yes,
    decide_eq_true_eq]

lemma holds_membership {n : Int} (hn : t.cell column = .bigint n) {selects : List SubSelect}
    (hne : selects ≠ []) {ids : List Int}
    (hids : selectedByAny rules heads t selects = ids.map .bigint) :
    (membership column selects false).holds rules heads t = true ↔ n ∈ ids := by
  have hempty : selects.isEmpty = false := by simpa using hne
  rw [holds, truth?, hempty, hn, hids]
  simp only [Bool.false_eq_true, if_false, Truth.keeps_some, Cell.isAmong_bigint,
    Truth.ofBool_eq_yes, decide_eq_true_eq]

lemma holds_not_membership {n : Int} (hn : t.cell column = .bigint n)
    {selects : List SubSelect} (hne : selects ≠ []) {ids : List Int}
    (hids : selectedByAny rules heads t selects = ids.map .bigint) :
    (membership column selects true).holds rules heads t = true ↔ n ∉ ids := by
  have hempty : selects.isEmpty = false := by simpa using hne
  rw [holds, truth?, hempty, hn, hids]
  simp only [Bool.false_eq_true, if_false, if_true, Truth.keeps_some, Cell.isAmong_bigint,
    Truth.not_eq_yes, Truth.ofBool_eq_no, decide_eq_false_iff_not]

variable (rules heads t)

mutual

/-- A condition has a truth value just where it has SQL. -/
lemma isSome_truth? :
    ∀ (p : Predicate), (p.truth? rules heads t).isSome = p.fragment?.isSome
  | like column patterns negated => by
    rw [truth?, fragment?]
    cases patterns with
    | nil => rfl
    | cons pattern patterns => cases patterns <;> rfl
  | anyOf column values negated => by
    rw [truth?, fragment?]
    cases values <;> rfl
  | idIn column ids => by
    rw [truth?, fragment?]
    rfl
  | membership column selects negated => by
    rw [truth?, fragment?]
    cases selects <;> rfl
  | prefixMatch column terms => by
    rw [truth?, fragment?]
    rfl
  | and parts => by
    rw [truth?, fragment?, Fragment.isSome_combine, ← isEmpty_truths parts]
    cases (truths rules heads t parts).isEmpty <;> rfl
  | or parts => by
    rw [truth?, fragment?, Fragment.isSome_combine, ← isEmpty_truths parts]
    cases (truths rules heads t parts).isEmpty <;> rfl

lemma isEmpty_truths :
    ∀ (ps : List Predicate), (truths rules heads t ps).isEmpty = (fragments ps).isEmpty
  | [] => rfl
  | p :: ps => by
    have hp := isSome_truth? p
    rw [truths, fragments]
    cases hv : p.truth? rules heads t <;> cases hf : p.fragment?
    · exact isEmpty_truths ps
    · rw [hv, hf] at hp
      cases hp
    · rw [hv, hf] at hp
      cases hp
    · rfl

end

end Truths

end Predicate

/-- The truth of the condition and the rank of a tier, unless the condition constrains nothing. -/
def Tier.arm (rules : TextRules) (heads : Heads) (t : Tuple) (tier : Tier) :
    Option (Truth × Int) :=
  (tier.condition.truth? rules heads t).map fun truth => (truth, tier.rank)

/-- The rank of the first arm whose condition is true, else the fallback. -/
def firstRank (fallback : Int) : List (Truth × Int) → Int
  | [] => fallback
  | (.yes, rank) :: _ => rank
  | _ :: arms => firstRank fallback arms

/-- What a key gives a row, unless it orders nothing. -/
def OrderKey.cell? (rules : TextRules) (heads : Heads) (t : Tuple) : OrderKey → Option Cell
  | column name => some (t.cell name)
  | tiered tiers fallback =>
    match tiers.filterMap (Tier.arm rules heads t) with
    | [] => none
    | arms => some (.bigint (firstRank fallback arms))

/-- The cells by which an order sorts a row, the most significant first. -/
def Order.cells (rules : TextRules) (heads : Heads) (t : Tuple) (keys : List OrderKey) :
    List Cell :=
  keys.filterMap (OrderKey.cell? rules heads t)

/-- Lists of cells in the order of their first difference. -/
def cellsNotAfter (rules : TextRules) : List Cell → List Cell → Bool
  | [], _ => true
  | _ :: _, [] => false
  | c :: cs, d :: ds =>
    c.notAfter rules d && (!d.notAfter rules c || cellsNotAfter rules cs ds)

end FacetSearch
