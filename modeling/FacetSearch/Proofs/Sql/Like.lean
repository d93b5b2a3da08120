import FacetSearch.Text.LikePattern
import Mathlib.Data.List.Infix

/-!
# Matching of LIKE patterns

In a pattern with the backslash as escape character, `%` stands for any run of characters, `_`
for any one character, a backslash makes the next character stand for itself, and every other
character stands for itself. An escaped text therefore stands for itself as well, and the patterns
made from a term match the texts that the term is, starts, ends or is contained in.
-/

namespace FacetSearch

/-- Whether a text is a character that fits and then a text that `continues`. -/
def oneThen (fits : Char → Bool) (continues : List Char → Bool) : List Char → Bool
  | [] => false
  | d :: rest => fits d && continues rest

/-- Whether a pattern matches a text, where `same` tells which characters of the text stand for
one of the pattern. A backslash at the end of a pattern matches nothing. -/
def likeMatches (same : Char → Char → Bool) : List Char → List Char → Bool
  | [] => List.isEmpty
  | '%' :: pattern => fun text => text.tails.any (likeMatches same pattern)
  | '_' :: pattern => oneThen (fun _ => true) (likeMatches same pattern)
  | ['\\'] => fun _ => false
  | '\\' :: c :: pattern => oneThen (same c) (likeMatches same pattern)
  | c :: pattern => oneThen (same c) (likeMatches same pattern)

section LikeMatches

variable {same : Char → Char → Bool}

lemma likeMatches_nil {text : List Char} : likeMatches same [] text = true ↔ text = [] := by
  rw [likeMatches, List.isEmpty_iff]

lemma likeMatches_percent {pattern text : List Char} :
    likeMatches same ('%' :: pattern) text = true ↔
      ∃ skipped rest, text = skipped ++ rest ∧ likeMatches same pattern rest = true := by
  rw [likeMatches, List.any_eq_true]
  constructor
  · rintro ⟨rest, htail, hrest⟩
    obtain ⟨skipped, rfl⟩ := (List.mem_tails _ _).mp htail
    exact ⟨skipped, rest, rfl, hrest⟩
  · rintro ⟨skipped, rest, rfl, hrest⟩
    exact ⟨rest, (List.mem_tails _ _).mpr (List.suffix_append skipped rest), hrest⟩

/-- Whether or not a character has a meaning of its own, escaped it stands for itself. -/
lemma likeMatches_escape_cons (c : Char) (cs pattern : List Char) :
    likeMatches same (Text.likeEscapeChars (c :: cs) ++ pattern) =
      oneThen (same c) (likeMatches same (Text.likeEscapeChars cs ++ pattern)) := by
  rw [Text.likeEscapeChars]
  by_cases hc : Text.isLikeMeta c = true
  · rw [if_pos hc, List.cons_append, List.cons_append, likeMatches]
  · rw [if_neg hc, List.cons_append]
    simp only [Text.isLikeMeta, Bool.or_eq_true, beq_iff_eq, not_or] at hc
    obtain ⟨⟨hbackslash, hpercent⟩, hunderscore⟩ := hc
    rw [likeMatches]
    · exact hpercent
    · exact hunderscore
    · exact fun h _ => hbackslash h
    · exact fun _ _ h _ => hbackslash h

/-- An escaped text at the front of a pattern matches a part that is the same character by
character. -/
lemma likeMatches_escape_append {cs pattern text : List Char} :
    likeMatches same (Text.likeEscapeChars cs ++ pattern) text = true ↔
      ∃ part rest, text = part ++ rest ∧ List.Forall₂ (fun c d => same c d = true) cs part ∧
        likeMatches same pattern rest = true := by
  induction cs generalizing text with
  | nil =>
    rw [Text.likeEscapeChars, List.nil_append]
    constructor
    · intro h
      exact ⟨[], text, rfl, .nil, h⟩
    · rintro ⟨part, rest, rfl, ⟨⟩, hrest⟩
      exact hrest
  | cons c cs ih =>
    rw [likeMatches_escape_cons]
    cases text with
    | nil =>
      constructor
      · intro h
        cases h
      · rintro ⟨part, rest, htext, hpart, -⟩
        obtain ⟨rfl, rfl⟩ := List.append_eq_nil_iff.mp htext.symm
        cases hpart
    | cons d text =>
      rw [oneThen, Bool.and_eq_true, ih]
      constructor
      · rintro ⟨hd, part, rest, rfl, hpart, hrest⟩
        exact ⟨d :: part, rest, rfl, .cons hd hpart, hrest⟩
      · rintro ⟨part, rest, htext, hpart, hrest⟩
        cases hpart with
        | cons hd hpart =>
          obtain ⟨rfl, rfl⟩ := List.cons_eq_cons.mp htext
          exact ⟨hd, _, rest, rfl, hpart, hrest⟩

lemma likeMatches_only_percent (text : List Char) : likeMatches same ['%'] text = true :=
  likeMatches_percent.mpr ⟨text, [], by simp, likeMatches_nil.mpr rfl⟩

/-- The pattern for a term itself matches the texts that are the same character by character. -/
lemma likeMatches_likeLiteral {term : String} {text : List Char} :
    likeMatches same (Text.likeLiteral term).toList text = true ↔
      List.Forall₂ (fun c d => same c d = true) term.toList text := by
  have hpattern : (Text.likeLiteral term).toList = Text.likeEscapeChars term.toList ++ [] := by
    simp [Text.likeLiteral]
  rw [hpattern, likeMatches_escape_append]
  constructor
  · rintro ⟨part, rest, rfl, hpart, hrest⟩
    rw [likeMatches_nil.mp hrest, List.append_nil]
    exact hpart
  · intro hpart
    exact ⟨text, [], by simp, hpart, likeMatches_nil.mpr rfl⟩

/-- The pattern for texts that begin with a term matches exactly those. -/
lemma likeMatches_likeStartsWith {term : String} {text : List Char} :
    likeMatches same (Text.likeStartsWith term).toList text = true ↔
      ∃ part after, text = part ++ after ∧
        List.Forall₂ (fun c d => same c d = true) term.toList part := by
  have hpattern : (Text.likeStartsWith term).toList =
      Text.likeEscapeChars term.toList ++ ['%'] := by
    simp [Text.likeStartsWith, Text.likeLiteral]
  rw [hpattern, likeMatches_escape_append]
  constructor
  · rintro ⟨part, after, htext, hpart, -⟩
    exact ⟨part, after, htext, hpart⟩
  · rintro ⟨part, after, htext, hpart⟩
    exact ⟨part, after, htext, hpart, likeMatches_only_percent after⟩

/-- The pattern for texts that end with a term matches exactly those. -/
lemma likeMatches_likeEndsWith {term : String} {text : List Char} :
    likeMatches same (Text.likeEndsWith term).toList text = true ↔
      ∃ before part, text = before ++ part ∧
        List.Forall₂ (fun c d => same c d = true) term.toList part := by
  have hpattern : (Text.likeEndsWith term).toList = '%' :: (Text.likeLiteral term).toList := by
    simp [Text.likeEndsWith]
  rw [hpattern, likeMatches_percent]
  simp only [likeMatches_likeLiteral]

/-- The pattern for texts that contain a term matches exactly those. -/
lemma likeMatches_likeContains {term : String} {text : List Char} :
    likeMatches same (Text.likeContains term).toList text = true ↔
      ∃ before part after, text = before ++ part ++ after ∧
        List.Forall₂ (fun c d => same c d = true) term.toList part := by
  have hpattern : (Text.likeContains term).toList =
      '%' :: (Text.likeStartsWith term).toList := by
    simp [Text.likeContains, Text.likeStartsWith]
  rw [hpattern, likeMatches_percent]
  simp only [likeMatches_likeStartsWith]
  constructor
  · rintro ⟨before, rest, rfl, part, after, rfl, hpart⟩
    exact ⟨before, part, after, by simp, hpart⟩
  · rintro ⟨before, part, after, rfl, hpart⟩
    exact ⟨before, part ++ after, by simp, part, after, rfl, hpart⟩

end LikeMatches

/-! ## Escapes that are complete -/

/-- Whether the last character of a pattern is an escape with nothing after it to stand for. -/
def endsInEscape : List Char → Bool
  | [] => false
  | ['\\'] => true
  | '\\' :: _ :: pattern => endsInEscape pattern
  | _ :: pattern => endsInEscape pattern

lemma endsInEscape_cons {c : Char} (h : c ≠ '\\') (pattern : List Char) :
    endsInEscape (c :: pattern) = endsInEscape pattern := by
  rw [endsInEscape]
  · exact fun hc _ => h hc
  · exact fun _ _ hc _ => h hc

/-- What follows an escaped text is read as if the text were not there. -/
lemma endsInEscape_escape_append (cs pattern : List Char) :
    endsInEscape (Text.likeEscapeChars cs ++ pattern) = endsInEscape pattern := by
  induction cs with
  | nil => rfl
  | cons c cs ih =>
    rw [Text.likeEscapeChars]
    by_cases hc : Text.isLikeMeta c = true
    · rw [if_pos hc, List.cons_append, List.cons_append, endsInEscape, ih]
    · have hbackslash : c ≠ '\\' := by
        rintro rfl
        exact hc rfl
      rw [if_neg hc, List.cons_append, endsInEscape_cons hbackslash, ih]

/-- Patterns made from a term take the term literally: whatever characters stand for one another,
the four patterns match the texts that are the same as the term, begin with it, end with it or
contain it, character by character. None of the patterns ends in an escape. -/
theorem likeMatches_term_literally (same : Char → Char → Bool) (term : String)
    (text : List Char) :
    (likeMatches same (Text.likeLiteral term).toList text = true ↔
      List.Forall₂ (fun c d => same c d = true) term.toList text) ∧
    (likeMatches same (Text.likeStartsWith term).toList text = true ↔
      ∃ part after, text = part ++ after ∧
        List.Forall₂ (fun c d => same c d = true) term.toList part) ∧
    (likeMatches same (Text.likeEndsWith term).toList text = true ↔
      ∃ before part, text = before ++ part ∧
        List.Forall₂ (fun c d => same c d = true) term.toList part) ∧
    (likeMatches same (Text.likeContains term).toList text = true ↔
      ∃ before part after, text = before ++ part ++ after ∧
        List.Forall₂ (fun c d => same c d = true) term.toList part) ∧
    ∀ pattern ∈ [Text.likeLiteral, Text.likeStartsWith, Text.likeEndsWith, Text.likeContains],
      endsInEscape (pattern term).toList = false := by
  refine ⟨likeMatches_likeLiteral, likeMatches_likeStartsWith, likeMatches_likeEndsWith,
    likeMatches_likeContains, ?_⟩
  have hliteral : endsInEscape (Text.likeLiteral term).toList = false := by
    have hescaped : endsInEscape (Text.likeEscapeChars term.toList ++ []) = false :=
      endsInEscape_escape_append term.toList []
    simpa [Text.likeLiteral] using hescaped
  have hstarts : endsInEscape (Text.likeStartsWith term).toList = false := by
    have hescaped : endsInEscape (Text.likeEscapeChars term.toList ++ ['%']) = false :=
      endsInEscape_escape_append term.toList ['%']
    simpa [Text.likeStartsWith, Text.likeLiteral] using hescaped
  have hpercent (s : String) : endsInEscape ("%" ++ s).toList = endsInEscape s.toList := by
    rw [String.toList_append]
    exact endsInEscape_cons (by decide) s.toList
  have hends : endsInEscape (Text.likeEndsWith term).toList = false :=
    (hpercent (Text.likeLiteral term)).trans hliteral
  have hcontains : endsInEscape (Text.likeContains term).toList = false := by
    rw [Text.likeContains, String.append_assoc]
    exact (hpercent (Text.likeStartsWith term)).trans hstarts
  simp [hliteral, hstarts, hends, hcontains]

end FacetSearch
