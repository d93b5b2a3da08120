import FacetSearch.Options.Facet
import FacetSearch.Pattern.Literal
import FacetSearch.Text.LikePattern
import FacetSearch.Text.Words
import FacetSearch.Proofs.Text.Bytes
import FacetSearch.Proofs.Text.CommaList
import FacetSearch.Proofs.Text.LowerCase
import Mathlib.Data.List.TakeWhile

/-!
# Texts that can be stored

The database has no character U+0000. Lists, patterns and regular expressions made from a text hold
that character just when the text does. Numbers and words never hold it.
-/

namespace FacetSearch

namespace Text

/-- The text does not hold the character that the database does not have. -/
def Storable (s : String) : Prop := '\x00' ∉ s.toList

instance (s : String) : Decidable (Storable s) := inferInstanceAs (Decidable (_ ∉ _))

@[simp] lemma storable_append {s t : String} : Storable (s ++ t) ↔ Storable s ∧ Storable t := by
  rw [Storable, String.toList_append, List.mem_append, not_or]
  rfl

/-! ## Patterns -/

lemma mem_likeEscapeChars {c : Char} (h : c ≠ '\\') (cs : List Char) :
    c ∈ likeEscapeChars cs ↔ c ∈ cs := by
  induction cs with
  | nil => rfl
  | cons d cs ih =>
    rw [likeEscapeChars]
    split
    · simp [h, ih]
    · simp [ih]

@[simp] lemma storable_likeLiteral {s : String} : Storable (likeLiteral s) ↔ Storable s := by
  rw [Storable, likeLiteral, String.toList_ofList, mem_likeEscapeChars (by decide)]
  rfl

lemma storable_percent : Storable "%" := by decide

@[simp] lemma storable_likeContains {s : String} : Storable (likeContains s) ↔ Storable s := by
  simp [likeContains, storable_percent]

@[simp] lemma storable_likeStartsWith {s : String} : Storable (likeStartsWith s) ↔ Storable s := by
  simp [likeStartsWith, storable_percent]

@[simp] lemma storable_likeEndsWith {s : String} : Storable (likeEndsWith s) ↔ Storable s := by
  simp [likeEndsWith, storable_percent]

@[simp] lemma storable_literal {s : String} : Storable (Pattern.literal s) ↔ Storable s := by
  have hmem (c : Char) :
      '\x00' ∈ (if c ∈ Pattern.metaChars then ['\\', c] else [c]) ↔ '\x00' = c := by
    split <;> simp
  rw [Storable, Pattern.literal, String.toList_ofList, List.mem_flatMap]
  simp only [hmem, exists_eq_right']
  rfl

/-! ## Lists -/

lemma mem_dropWhile {p : Char → Bool} {c : Char} (h : p c = false) (cs : List Char) :
    c ∈ cs.dropWhile p ↔ c ∈ cs := by
  constructor
  · intro hc
    exact List.dropWhile_subset p hc
  · intro hc
    rw [← List.takeWhile_append_dropWhile (p := p) (l := cs), List.mem_append] at hc
    rcases hc with hc | hc
    · rw [List.mem_takeWhile_imp hc] at h
      cases h
    · exact hc

lemma mem_trimChars {c : Char} (h : isWhiteSpace c = false) (cs : List Char) :
    c ∈ trimChars cs ↔ c ∈ cs := by
  rw [trimChars, List.mem_reverse, mem_dropWhile h, List.mem_reverse, mem_dropWhile h]

/-- A character that neither separates items nor is trimmed is in an item of a list if it is in its
text. -/
lemma exists_mem_splitList {c : Char} (hcomma : c ≠ ',') (hspace : isWhiteSpace c = false)
    (s : String) : (∃ item ∈ splitList s, c ∈ item.toList) ↔ c ∈ s.toList := by
  have hparts : (∃ part ∈ s.toList.splitOn ',', c ∈ part) ↔ c ∈ s.toList := by
    rw [← mem_intercalate_of_ne hcomma, List.intercalate_splitOn]
  have hitem (part : List Char) : c ∈ (String.ofList (trimChars part)).toList ↔ c ∈ part := by
    rw [String.toList_ofList, mem_trimChars hspace]
  rw [← hparts]
  constructor
  · rintro ⟨item, hitems, hc⟩
    rw [splitList, mem_appendNew, commaItems] at hitems
    have hkept := (List.mem_filter.mp (hitems.resolve_left List.not_mem_nil)).1
    obtain ⟨part, hpart, rfl⟩ := List.mem_map.mp hkept
    exact ⟨part, hpart, (hitem part).mp hc⟩
  · rintro ⟨part, hpart, hc⟩
    have hmem := (hitem part).mpr hc
    have hne : String.ofList (trimChars part) ≠ "" := by
      intro hempty
      rw [hempty] at hmem
      cases hmem
    refine ⟨String.ofList (trimChars part), ?_, hmem⟩
    rw [splitList, mem_appendNew, commaItems]
    exact .inr (List.mem_filter.mpr ⟨List.mem_map_of_mem hpart, by simpa using hne⟩)

@[simp] lemma storable_splitList {s : String} :
    (∀ item ∈ splitList s, Storable item) ↔ Storable s := by
  rw [Storable, ← exists_mem_splitList (by decide) (by decide) s]
  simp only [not_exists, not_and]
  rfl

/-! ## Words -/

lemma lowerCaseChar_ne {c : Char} (h : c ≠ '\x00') : '\x00' ∉ lowerCaseChar c := by
  rw [lowerCaseChar]
  split
  · decide
  · split
    · rename_i d hd
      obtain ⟨r, hr, ⟨hfirst, hlast, -⟩, rfl⟩ := exists_run_of_caseShift hd
      obtain ⟨hpositive, hvalid⟩ := lowerCaseRuns_valid r hr
      have hchar : (c.toNat + r.shift).toNat.isValidChar := by
        unfold Nat.isValidChar
        omega
      intro hnul
      have htoNat : (Char.ofNat (c.toNat + r.shift).toNat).toNat = 0 := by
        rw [← List.mem_singleton.mp hnul]
        rfl
      rw [toNat_ofNat hchar] at htoNat
      omega
    · simpa using h.symm

lemma lowerCaseFrom_ne {cs : List Char} (h : '\x00' ∉ cs) (before : List Char) :
    '\x00' ∉ lowerCaseFrom before cs := by
  induction cs generalizing before with
  | nil => exact h
  | cons c cs ih =>
    rw [List.mem_cons, not_or] at h
    obtain ⟨hc, hcs⟩ := h
    rw [lowerCaseFrom, List.mem_append, not_or]
    refine ⟨?_, ih hcs _⟩
    split
    · split <;> decide
    · exact lowerCaseChar_ne (Ne.symm hc)

lemma storable_searchTerms (s : String) : ∀ word ∈ searchTerms s, Storable word := by
  intro word hword
  rw [searchTerms, mem_appendNew] at hword
  obtain ⟨run, hrun, rfl⟩ := List.mem_map.mp (hword.resolve_left List.not_mem_nil)
  rw [wordRuns] at hrun
  obtain ⟨part, hpart, rfl⟩ := List.mem_map.mp hrun
  have hletters := eq_false_of_mem_splitOnP _ part (List.mem_filter.mp hpart).1
  have hnul : '\x00' ∉ part := by
    intro hmem
    have hletter := hletters _ hmem
    revert hletter
    decide
  rw [Storable, lowerCase, String.toList_ofList, String.toList_ofList]
  exact lowerCaseFrom_ne hnul []

end Text

/-! ## Numbers -/

lemma nul_notMem_toDigits (n : Nat) : '\x00' ∉ Nat.toDigits 10 n := by
  intro hmem
  have hdigit := Nat.isDigit_of_mem_toDigits (by decide) (by decide) hmem
  revert hdigit
  decide

lemma Text.storable_natText (n : Nat) : Text.Storable (toString n) := by
  rw [Text.Storable, Nat.toString_eq_repr, Nat.toList_repr]
  exact nul_notMem_toDigits n

lemma Text.storable_intText (n : Int) : Text.Storable (toString n) := by
  rw [Int.toString_eq_repr, Int.repr_eq_if]
  split
  · exact Text.storable_natText n.toNat
  · rw [Text.storable_append]
    exact ⟨by decide, Text.storable_natText (-n).toNat⟩

namespace DecimalLayout

lemma nul_notMem_positionalText (l : DecimalLayout) (d : Decimal) :
    '\x00' ∉ l.positionalText d := by
  have hdigits := nul_notMem_toDigits d.digits
  have htake (n : Nat) : '\x00' ∉ (Nat.toDigits 10 d.digits).take n := fun hmem =>
    hdigits (List.mem_of_mem_take hmem)
  have hdrop (n : Nat) : '\x00' ∉ (Nat.toDigits 10 d.digits).drop n := fun hmem =>
    hdigits (List.mem_of_mem_drop hmem)
  have hpoint : '\x00' ∉ if l.keepPoint then ['.', '0'] else [] := by
    split <;> decide
  simp only [positionalText]
  split
  · simp [hdigits, hpoint]
  · split
    · simp [htake, hdrop]
    · simp [hdigits]

lemma nul_notMem_scientificText (d : Decimal) : '\x00' ∉ scientificText d := by
  have hdigits := nul_notMem_toDigits d.digits
  have htake : '\x00' ∉ (Nat.toDigits 10 d.digits).take 1 := fun hmem =>
    hdigits (List.mem_of_mem_take hmem)
  have hdrop : '\x00' ∉ (Nat.toDigits 10 d.digits).drop 1 := fun hmem =>
    hdigits (List.mem_of_mem_drop hmem)
  have hsign (leading : Int) : '\x00' ≠ if leading < 0 then '-' else '+' := by
    split <;> decide
  simp only [scientificText, List.mem_append, List.mem_cons, not_or]
  refine ⟨⟨htake, ?_⟩, by decide, hsign _, nul_notMem_toDigits _⟩
  split
  · exact List.not_mem_nil
  · rw [List.mem_cons, not_or]
    exact ⟨by decide, hdrop⟩

lemma nul_notMem_text (l : DecimalLayout) (d : Decimal) : '\x00' ∉ l.text d := by
  simp only [text]
  split
  · exact nul_notMem_positionalText l d
  · split
    · exact nul_notMem_positionalText l d
    · exact nul_notMem_scientificText d

lemma storable_float (l : DecimalLayout) (x : Float) : Text.Storable (l.float x) := by
  rw [float]
  split
  · decide
  · simp only [Text.Storable, String.toList_ofList, List.mem_append, not_or]
    constructor
    · split <;> decide
    · split
      · decide
      · exact nul_notMem_text l _

end DecimalLayout

/-! ## Values of options -/

namespace Json

lemma storable_numberText (n : JsonNumber) : Text.Storable n.text := by
  cases n with
  | int n => exact Text.storable_intText n
  | float x => exact DecimalLayout.storable_float _ x

/-- The text that a value is itself. -/
def ownText? : Json → Option String
  | string s => some s
  | _ => none

/-- The texts that a caller gives at a place of the options. -/
def givenTexts : Option Json → List String
  | some (array items) => items.filterMap ownText?
  | some v => v.ownText?.toList
  | none => []

lemma storable_scalarText? (v : Json) :
    (∀ s ∈ v.scalarText?, Text.Storable s) ↔ ∀ s ∈ v.ownText?, Text.Storable s := by
  cases v with
  | bool b =>
    cases b <;> simp [scalarText?, ownText?] <;> decide
  | number n => simp [scalarText?, ownText?, storable_numberText]
  | _ => rfl

/-- Joined with commas, texts can be stored together just when each of them can. -/
lemma storable_commaJoin (texts : List String) :
    Text.Storable (",".intercalate texts) ↔ ∀ s ∈ texts, Text.Storable s := by
  have hcomma : ",".toList = [','] := rfl
  rw [Text.Storable, String.toList_intercalate, hcomma, Text.mem_intercalate_of_ne (by decide)]
  simp [Text.Storable]

lemma storable_valueText? (v : Json) :
    (∀ s ∈ v.valueText?, Text.Storable s) ↔ ∀ s ∈ givenTexts (some v), Text.Storable s := by
  cases v with
  | array items =>
    have hitems : (∀ s ∈ items.filterMap scalarText?, Text.Storable s) ↔
        ∀ s ∈ items.filterMap ownText?, Text.Storable s := by
      constructor
      · intro h s hs
        obtain ⟨item, hitem, hown⟩ := List.mem_filterMap.mp hs
        have hscalar : ∀ t ∈ item.scalarText?, Text.Storable t := fun t ht =>
          h t (List.mem_filterMap.mpr ⟨item, hitem, ht⟩)
        exact (storable_scalarText? item).mp hscalar s hown
      · intro h s hs
        obtain ⟨item, hitem, hscalar⟩ := List.mem_filterMap.mp hs
        have hown : ∀ t ∈ item.ownText?, Text.Storable t := fun t ht =>
          h t (List.mem_filterMap.mpr ⟨item, hitem, ht⟩)
        exact (storable_scalarText? item).mpr hown s hscalar
    simp only [valueText?, givenTexts, Option.mem_some_iff, forall_eq', storable_commaJoin, hitems]
  | _ =>
    simp only [valueText?, givenTexts, Option.mem_toList]
    exact storable_scalarText? _

/-- The items of a list can be stored just when the texts can from which it is made. -/
lemma storable_valueList (v : Option Json) :
    (∀ item ∈ valueList v, Text.Storable item) ↔ ∀ s ∈ givenTexts v, Text.Storable s := by
  cases v with
  | none => simp [valueList, givenTexts]
  | some v =>
    rw [← storable_valueText?, valueList, Option.bind_some]
    cases v.valueText? with
    | none => simp
    | some s => simp

end Json

end FacetSearch
