import FacetSearch.Proofs.Sql.Identifiers

/-!
# Clauses of statements

A statement without sub-selects is read by its words: the tables of its FROM clause with their
aliases, the aliases that qualify its columns, and the keys of its order.
-/

namespace FacetSearch

namespace Sql

/-- The words that begin the clauses after the tables. -/
def laterClauses : List (List Char) := ["WHERE", "ORDER", "LIMIT"].map String.toList

/-- The words of the FROM clause. -/
def fromClause (ws : List (List Char)) : List (List Char) :=
  (ws.dropWhile (· ≠ "FROM".toList)).takeWhile (!laterClauses.contains ·)

/-- The words before the FROM clause and after it. -/
def besideFrom (ws : List (List Char)) : List (List Char) :=
  ws.takeWhile (· ≠ "FROM".toList) ++
    (ws.dropWhile (· ≠ "FROM".toList)).dropWhile (!laterClauses.contains ·)

/-- The tables of the FROM clause, each with its alias. -/
def tables (ws : List (List Char)) : List (List Char × List Char) :=
  ((fromClause ws).tail.splitOn "JOIN".toList).filterMap fun
    | table :: as :: _ => some (table, as)
    | _ => none

/-- The aliases with which columns are qualified. -/
def qualifiers (ws : List (List Char)) : List (List Char) :=
  (ws.filter ('.' ∈ ·)).map (·.takeWhile (· ≠ '.'))

/-- The keys of the order of a page. -/
def orderKeys (ws : List (List Char)) : List (List Char) :=
  (ws.dropWhile (· ≠ "BY".toList)).tail.takeWhile (· ≠ "LIMIT".toList)

section Words

variable {before rest ws vs : List (List Char)}

@[simp] lemma qualifiers_append (ws vs : List (List Char)) :
    qualifiers (ws ++ vs) = qualifiers ws ++ qualifiers vs := by
  rw [qualifiers, List.filter_append, List.map_append]
  rfl

lemma qualifiers_cons {w : List Char} (h : '.' ∉ w) (ws : List (List Char)) :
    qualifiers (w :: ws) = qualifiers ws := by
  rw [qualifiers, List.filter_cons_of_neg (by simpa using h)]
  rfl

lemma qualifiers_of_unqualified (h : ∀ w ∈ ws, '.' ∉ w) : qualifiers ws = [] := by
  have hnone : ws.filter ('.' ∈ ·) = [] := List.filter_eq_nil_iff.mpr (by simpa using h)
  rw [qualifiers, hnone]
  rfl

/-- The names of a text are all that is qualified in it. -/
lemma MadeOf.exists_name {names : List String} {cs w : List Char} (h : MadeOf names cs)
    (hw : w ∈ identifiers cs) (hpoint : '.' ∈ w) : ∃ name ∈ names, w ∈ identifiers name.toList := by
  rcases h w hw with hword | hnumber | hname
  · have hplain : ∀ w ∈ conditionWords, '.' ∉ w := by decide
    exact absurd hpoint (hplain w hword)
  · exact absurd (List.all_eq_true.mp hnumber '.' hpoint) (by decide)
  · exact hname

lemma MadeOf.qualifiers_subset {names : List String} {cs : List Char} (h : MadeOf names cs) :
    qualifiers (identifiers cs) ⊆ names.flatMap fun name => qualifiers (identifiers name.toList) := by
  intro a ha
  obtain ⟨w, hw, rfl⟩ := List.mem_map.mp ha
  obtain ⟨hw, hpoint⟩ := List.mem_filter.mp hw
  obtain ⟨name, hname, hmem⟩ := h.exists_name hw (of_decide_eq_true hpoint)
  refine List.mem_flatMap.mpr ⟨name, hname, List.mem_map_of_mem ?_⟩
  exact List.mem_filter.mpr ⟨hmem, hpoint⟩

/-- The FROM clause of a text that has it between other clauses. -/
lemma clauses_append (hbefore : "FROM".toList ∉ before) (hws : ∀ w ∈ ws, w ∉ laterClauses)
    (hrest : ∀ w ∈ rest.head?, w ∈ laterClauses) :
    fromClause (before ++ "FROM".toList :: (ws ++ rest)) = "FROM".toList :: ws ∧
      besideFrom (before ++ "FROM".toList :: (ws ++ rest)) = before ++ rest := by
  have hselect : ∀ w ∈ before, decide (w ≠ "FROM".toList) = true := by
    intro w hw
    exact decide_eq_true fun heq => hbefore (heq ▸ hw)
  have hfrom : ∀ w ∈ "FROM".toList :: ws, (!laterClauses.contains w) = true := by
    rw [List.forall_mem_cons]
    exact ⟨by decide, fun w hw => by simpa using hws w hw⟩
  have hdrop : (before ++ "FROM".toList :: (ws ++ rest)).dropWhile (· ≠ "FROM".toList) =
      ("FROM".toList :: ws) ++ rest := by
    rw [List.dropWhile_append_of_pos hselect, List.dropWhile_cons_of_neg (by decide)]
    rfl
  have htake : (before ++ "FROM".toList :: (ws ++ rest)).takeWhile (· ≠ "FROM".toList) =
      before := by
    rw [List.takeWhile_append_of_pos hselect, List.takeWhile_cons_of_neg (by decide),
      List.append_nil]
  have hlater : rest.takeWhile (!laterClauses.contains ·) = [] ∧
      rest.dropWhile (!laterClauses.contains ·) = rest := by
    cases rest with
    | nil => exact ⟨rfl, rfl⟩
    | cons w rest =>
      have hw : w ∈ laterClauses := hrest w rfl
      simp [hw]
  constructor
  · rw [fromClause, hdrop, List.takeWhile_append_of_pos hfrom, hlater.1, List.append_nil]
  · rw [besideFrom, hdrop, htake, List.dropWhile_append_of_pos hfrom, hlater.2]

lemma orderKeys_append (hbefore : "BY".toList ∉ before) (hws : "LIMIT".toList ∉ ws)
    (rest : List (List Char)) :
    orderKeys (before ++ "BY".toList :: (ws ++ "LIMIT".toList :: rest)) = ws := by
  have hby : ∀ w ∈ before, decide (w ≠ "BY".toList) = true := by
    intro w hw
    exact decide_eq_true fun heq => hbefore (heq ▸ hw)
  have hlimit : ∀ w ∈ ws, decide (w ≠ "LIMIT".toList) = true := by
    intro w hw
    exact decide_eq_true fun heq => hws (heq ▸ hw)
  rw [orderKeys, List.dropWhile_append_of_pos hby, List.dropWhile_cons_of_neg (by decide),
    List.tail_cons, List.takeWhile_append_of_pos hlimit, List.takeWhile_cons_of_neg (by decide),
    List.append_nil]

end Words

end Sql

end FacetSearch
