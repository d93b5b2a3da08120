import FacetSearch.Proofs.Http.Form
import Mathlib.Data.List.TakeWhile

/-!
# Queries made of parts

A URI is written as a path and the parts of its query. It is read as this path with the parameters
of all the parts, unless it is too long.
-/

namespace FacetSearch

namespace Uri

/-- The text of a URI with a query of these parts, or with no query if there are none. -/
def text (path : String) (parts : List String) : String :=
  if parts = [] then path else path ++ "?" ++ "&".intercalate parts

lemma isPathChar_ne {c : Char} (h : isPathChar c) : c ≠ '#' ∧ c ≠ '?' := by
  constructor
  · rintro rfl
    exact absurd h (by decide)
  · rintro rfl
    exact absurd h (by decide)

lemma isQueryChar_ne {c : Char} (h : isQueryChar c) : c ≠ '#' := by
  rintro rfl
  exact absurd h (by decide)

lemma ofPathAndQuery?_append {path : List Char} {query : Option (List Char)}
    (hpath : ∀ c ∈ path, isPathChar c) (hquery : ∀ c ∈ query.getD [], isQueryChar c) :
    ofPathAndQuery? (path ++ (query.map ('?' :: ·)).getD []) = some (path, query) := by
  have hhash : (path ++ (query.map ('?' :: ·)).getD []).takeWhile (· ≠ '#') =
      path ++ (query.map ('?' :: ·)).getD [] := by
    rw [List.takeWhile_eq_self_iff]
    intro c hc
    rw [decide_eq_true_iff]
    rcases List.mem_append.mp hc with hc | hc
    · exact (isPathChar_ne (hpath c hc)).1
    · cases query with
      | none => cases hc
      | some query =>
        rcases List.mem_cons.mp hc with rfl | hc
        · decide
        · exact isQueryChar_ne (hquery c hc)
  have hmark : ∀ c ∈ path, decide (c ≠ '?') = true := fun c hc =>
    decide_eq_true (isPathChar_ne (hpath c hc)).2
  have hlegal : (path.all isPathChar && (query.getD []).all isQueryChar) = true := by
    rw [List.all_eq_true.mpr hpath, List.all_eq_true.mpr hquery]
    rfl
  unfold ofPathAndQuery?
  simp only [hhash, List.takeWhile_append_of_pos hmark, List.dropWhile_append_of_pos hmark]
  cases query with
  | none =>
    simp only [Option.map_none, Option.getD_none, List.takeWhile_nil, List.dropWhile_nil,
      List.append_nil] at hlegal ⊢
    rw [if_pos hlegal]
  | some query =>
    simp only [Option.map_some, Option.getD_some, List.takeWhile_cons_of_neg,
      List.dropWhile_cons_of_neg, List.append_nil, ne_eq, not_true, decide_false,
      Bool.false_eq_true, not_false_eq_true] at hlegal ⊢
    rw [if_pos hlegal]

lemma mem_intercalate {c : Char} {parts : List String} (h : c ∈ ("&".intercalate parts).toList) :
    c = '&' ∨ ∃ part ∈ parts, c ∈ part.toList := by
  by_cases hc : c = '&'
  · exact .inl hc
  · have hchars : c ∈ ['&'].intercalate (parts.map String.toList) := by
      rw [String.toList_intercalate] at h
      exact h
    obtain ⟨_, hpart, hmem⟩ := (Text.mem_intercalate_of_ne hc _).mp hchars
    obtain ⟨part, hparts, rfl⟩ := List.mem_map.mp hpart
    exact .inr ⟨part, hparts, hmem⟩

lemma ofChars?_root (cs : List Char) :
    ofChars? ('/' :: cs) = (ofPathAndQuery? ('/' :: cs)).map fun (path, query) =>
      ⟨String.ofList path, query.map String.ofList⟩ := by
  rw [ofChars?]

/-- A text of parts is read as a URI with just these parts. -/
lemma parse?_text {path : String} {parts : List String} (hroot : path.toList.head? = some '/')
    (hpath : ∀ c ∈ path.toList, isPathChar c)
    (hparts : ∀ part ∈ parts, ∀ c ∈ part.toList, isQueryChar c)
    (hlength : (text path parts).utf8ByteSize ≤ maxLength) :
    parse? (text path parts) =
      some ⟨path, if parts = [] then none else some ("&".intercalate parts)⟩ := by
  let query : Option (List Char) :=
    if parts = [] then none else some ("&".intercalate parts).toList
  have hquery : ∀ c ∈ query.getD [], isQueryChar c := by
    intro c hc
    by_cases hnone : parts = []
    · simp [query, hnone] at hc
    · have hc' : c ∈ ("&".intercalate parts).toList := by simpa [query, hnone] using hc
      rcases mem_intercalate hc' with rfl | ⟨part, hpart, hc⟩
      · decide
      · exact hparts part hpart c hc
  have htext : (text path parts).toList = path.toList ++ (query.map ('?' :: ·)).getD [] := by
    by_cases hnone : parts = []
    · simp [text, query, hnone]
    · simp [text, query, hnone]
  have hread : ofPathAndQuery? (text path parts).toList = some (path.toList, query) := by
    rw [htext]
    exact ofPathAndQuery?_append hpath hquery
  obtain ⟨rest, hrest⟩ : ∃ rest, (text path parts).toList = '/' :: rest := by
    rw [htext]
    obtain ⟨rest, hrest⟩ := List.head?_eq_some_iff.mp hroot
    rw [hrest]
    exact ⟨_, rfl⟩
  have hwritten : query.map String.ofList =
      if parts = [] then none else some ("&".intercalate parts) := by
    by_cases hnone : parts = []
    · simp only [query, if_pos hnone, Option.map_none]
    · simp only [query, if_neg hnone, Option.map_some, String.ofList_toList]
  rw [parse?, if_pos hlength, hrest, ofChars?_root, ← hrest, hread]
  simp only [Option.map_some, String.ofList_toList, hwritten]

end Uri

/-- The parameters in the query of such a URI are those of its parts. -/
lemma Form.parse_query (parts : List String) :
    Form.parse (.ofText ((if parts = [] then none else some ("&".intercalate parts)).getD "")) =
      parts.flatMap fun part => Form.parse (.ofText part) := by
  by_cases hnone : parts = []
  · rw [if_pos hnone, hnone]
    rfl
  · rw [if_neg hnone, Option.getD_some, Bytes.ofText_intercalate]
    have hseparator : Bytes.ofText "&" = [0x26] := by decide
    rw [hseparator, Form.parse_intercalate, List.flatMap_map]

/-! ## Parameters given once -/

namespace Form

variable {before after : List (String × String)} {name other : String}

lemma filter_absent (h : name ∉ before.map Prod.fst) : before.filter (·.1 = name) = [] := by
  rw [List.filter_eq_nil_iff]
  intro p hp hname
  exact h (List.mem_map.mpr ⟨p, hp, of_decide_eq_true hname⟩)

lemma single?_absent (h : name ∉ before.map Prod.fst) : single? before name = some none := by
  rw [single?, filter_absent h]

lemma single?_given (h : name ∉ (before ++ after).map Prod.fst) (value : String) :
    single? (before ++ (name, value) :: after) name = some (some value) := by
  rw [List.map_append, List.mem_append, not_or] at h
  rw [single?, List.filter_append, filter_absent h.1, List.filter_cons_of_pos (by simp),
    filter_absent h.2]
  rfl

lemma single?_other (h : name ≠ other) (value : String) :
    single? (before ++ (name, value) :: after) other = single? (before ++ after) other := by
  rw [single?, List.filter_append, List.filter_cons_of_neg (by simpa using h),
    ← List.filter_append]
  rfl

end Form

end FacetSearch
