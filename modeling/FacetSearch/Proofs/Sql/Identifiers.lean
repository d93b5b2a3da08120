import FacetSearch.Proofs.Sql.Structure

/-!
# Identifiers in the text of statements

The names, keywords and numbers that a text is made of. A condition has, besides keywords and the
numbers of its places, no names in its text but those of its columns and sub-selects.
-/

namespace FacetSearch

namespace Sql

/-- Characters of names and numbers. A point joins a name to what it belongs to. -/
def isNameChar (c : Char) : Bool := c.isAlphanum || c == '_' || c == '.'

/-- A text does not go on with the name before it. -/
def isApart : List Char → Bool
  | [] => true
  | c :: _ => !isNameChar c

/-- The names, keywords and numbers in a text. -/
def identifiers (cs : List Char) : List (List Char) :=
  (cs.splitOnP fun c => !isNameChar c).filter (· ≠ [])

section Identifiers

variable {a b cs : List Char} {c : Char}

@[simp] lemma identifiers_nil : identifiers [] = [] := by simp [identifiers]

lemma identifiers_append_cons (hc : isNameChar c = false) (a b : List Char) :
    identifiers (a ++ c :: b) = identifiers a ++ identifiers b := by
  rw [identifiers, List.splitOnP_append_cons _ _ (by simpa using hc), List.filter_append]
  rfl

lemma identifiers_cons (hc : isNameChar c = false) (cs : List Char) :
    identifiers (c :: cs) = identifiers cs := by
  have happend := identifiers_append_cons hc [] cs
  rwa [identifiers_nil] at happend

/-- Texts keep their identifiers when the second one stands apart. -/
lemma identifiers_append (a : List Char) (h : isApart b = true) :
    identifiers (a ++ b) = identifiers a ++ identifiers b := by
  cases b with
  | nil => simp
  | cons c b =>
    have hc : isNameChar c = false := by simpa [isApart] using h
    rw [identifiers_append_cons hc, identifiers_cons hc]

lemma isApart_append (ha : isApart a = true) (hb : isApart b = true) :
    isApart (a ++ b) = true := by
  cases a with
  | nil => exact hb
  | cons c a => exact ha

lemma isApart_text_sql {s : String} (h : isApart s.toList = true) (hne : s ≠ "")
    (f : Fragment) (bound : Nat) :
    isApart (Fragment.text bound (.sql s :: f)).toList = true := by
  obtain ⟨c, cs, hs⟩ := List.exists_cons_of_ne_nil (show s.toList ≠ [] by simpa using hne)
  rw [hs] at h
  rw [Fragment.text, String.toList_append, hs]
  exact h

/-- A text of nothing but characters of names has no other identifier than itself. -/
lemma eq_of_mem_identifiers (h : ∀ c ∈ cs, isNameChar c = true) {w : List Char}
    (hw : w ∈ identifiers cs) : w = cs := by
  rw [identifiers, List.splitOnP_eq_singleton fun c hc => by simpa using h c hc] at hw
  exact List.mem_singleton.mp (List.mem_of_mem_filter hw)

/-- What is joined by a word keeps its identifiers, with those of the word in between. -/
lemma identifiers_intercalate (k s : List Char) (ss : List (List Char)) :
    identifiers ((' ' :: (k ++ [' '])).intercalate (s :: ss)) =
      identifiers s ++ ss.flatMap fun t => identifiers k ++ identifiers t := by
  induction ss generalizing s with
  | nil => simp
  | cons t ss ih =>
    have htext : (' ' :: (k ++ [' '])).intercalate (s :: t :: ss) =
        s ++ ' ' :: (k ++ ' ' :: (' ' :: (k ++ [' '])).intercalate (t :: ss)) := by
      simp [List.intercalate_cons_cons]
    rw [htext, identifiers_append_cons (by decide), identifiers_append_cons (by decide), ih,
      List.flatMap_cons, List.append_assoc]

lemma mem_identifiers_intercalate {k s w : List Char} {ss : List (List Char)} (hs : s ∈ ss)
    (hw : w ∈ identifiers s) : w ∈ identifiers ((' ' :: (k ++ [' '])).intercalate ss) := by
  cases ss with
  | nil => exact absurd hs List.not_mem_nil
  | cons s' ss =>
    -- Only the texts after the first one have the word before them.
    rw [identifiers_intercalate]
    rcases List.mem_cons.mp hs with rfl | hs
    · exact List.mem_append_left _ hw
    · refine List.mem_append_right _ (List.mem_flatMap.mpr ⟨s, hs, ?_⟩)
      exact List.mem_append_right _ hw

end Identifiers

/-! ## Conditions -/

/-- The keywords and functions that the text of a condition may hold. -/
def conditionWords : List (List Char) :=
  ["AND", "OR", "NOT", "ILIKE", "ESCAPE", "E", "IN", "ANY", "ALL", "UNION", "WHERE", "FALSE",
    "text", "bigint", "to_tsvector", "to_tsquery", "simple", "array_to_string", "ARRAY", "SELECT",
    "quote_literal", "t", "FROM", "unnest", "AS"].map String.toList

/-- What stands in a text besides the words of conditions and numbers is from one of the names. -/
def MadeOf (names : List String) (cs : List Char) : Prop :=
  ∀ w ∈ identifiers cs, w ∈ conditionWords ∨ w.all Char.isDigit = true ∨
    ∃ name ∈ names, w ∈ identifiers name.toList

section MadeOf

variable {names names' : List String} {a b cs : List Char}

lemma MadeOf.mono (h : MadeOf names cs) (hnames : names ⊆ names') : MadeOf names' cs := by
  intro w hw
  rcases h w hw with hword | hnumber | ⟨name, hname, hmem⟩
  · exact .inl hword
  · exact .inr (.inl hnumber)
  · exact .inr (.inr ⟨name, hnames hname, hmem⟩)

lemma madeOf_words (names : List String) (h : identifiers cs ⊆ conditionWords) :
    MadeOf names cs := fun _ hw => .inl (h hw)

lemma madeOf_name {name : String} (h : name ∈ names) : MadeOf names name.toList :=
  fun _ hw => .inr (.inr ⟨name, h, hw⟩)

lemma madeOf_number (names : List String) (n : Nat) : MadeOf names (toString n).toList := by
  have hdigits : ∀ c ∈ (toString n).toList, c.isDigit = true := by
    intro c hc
    have hmem : c ∈ Nat.toDigits 10 n := by simpa using hc
    exact Nat.isDigit_of_mem_toDigits (by decide) (by decide) hmem
  have hnames : ∀ c ∈ (toString n).toList, isNameChar c = true := by
    intro c hc
    simp [isNameChar, Char.isAlphanum, hdigits c hc]
  intro w hw
  rw [eq_of_mem_identifiers hnames hw]
  exact .inr (.inl (List.all_eq_true.mpr hdigits))

lemma MadeOf.append (ha : MadeOf names a) (hb : MadeOf names b)
    (h : isApart b = true) : MadeOf names (a ++ b) := by
  intro w hw
  rw [identifiers_append a h, List.mem_append] at hw
  exact hw.elim (ha w) (hb w)

lemma MadeOf.cons {c : Char} (hc : isNameChar c = false) (h : MadeOf names cs) :
    MadeOf names (c :: cs) := by
  rwa [MadeOf, identifiers_cons hc]

lemma MadeOf.intercalate {k : List Char} (hk : MadeOf names k) {l : List (List Char)}
    (h : ∀ s ∈ l, MadeOf names s) : MadeOf names ((' ' :: (k ++ [' '])).intercalate l) := by
  cases l with
  | nil => exact madeOf_words names (by simp)
  | cons s ss =>
    intro w hw
    rw [identifiers_intercalate, List.mem_append, List.mem_flatMap] at hw
    rcases hw with hw | ⟨t, ht, hw⟩
    · exact h s List.mem_cons_self w hw
    · rcases List.mem_append.mp hw with hw | hw
      · exact hk w hw
      · exact h t (List.mem_cons_of_mem s ht) w hw

/-- Literal text around the place of a value. -/
lemma MadeOf.around_value {opening closing : String} (hopening : MadeOf names opening.toList)
    (hclosing : MadeOf names closing.toList)
    (h : isApart closing.toList = true) (b : Bind) (bound : Nat) :
    MadeOf names (Fragment.text bound [.sql opening, .value b, .sql closing]).toList := by
  have hplace : MadeOf names ('$' :: ((toString (bound + 1)).toList ++ closing.toList)) :=
    ((madeOf_number names (bound + 1)).append hclosing h).cons (by decide)
  have htext : (Fragment.text bound [.sql opening, .value b, .sql closing]).toList =
      opening.toList ++ '$' :: ((toString (bound + 1)).toList ++ closing.toList) := by
    simp [Fragment.text]
  rw [htext]
  exact hopening.append hplace rfl

end MadeOf

end Sql

namespace Predicate

open Sql

variable {names : List String} {column : String}

lemma madeOf_comparison (hcolumn : column ∈ names) {operator closing : String}
    (hoperator : identifiers operator.toList ⊆ conditionWords)
    (hhead : isApart operator.toList = true)
    (hclosing : identifiers closing.toList ⊆ conditionWords)
    (hend : isApart closing.toList = true) (b : Bind) (bound : Nat) :
    MadeOf names
      (Fragment.text bound [.sql (column ++ operator), .value b, .sql closing]).toList := by
  have hopening : MadeOf names (column ++ operator).toList := by
    rw [String.toList_append]
    exact (madeOf_name hcolumn).append (madeOf_words names hoperator) hhead
  exact hopening.around_value (madeOf_words names hclosing) hend b bound

lemma madeOf_likeFragment (hcolumn : column ∈ names) (negated : Bool) (pattern : String)
    (bound : Nat) : MadeOf names (Fragment.text bound (likeFragment column negated pattern)).toList := by
  cases negated with
  | false => exact madeOf_comparison hcolumn (by decide) (by decide) (by decide) (by decide) _ bound
  | true => exact madeOf_comparison hcolumn (by decide) (by decide) (by decide) (by decide) _ bound

lemma madeOf_prefixMatchFragment (hcolumn : column ∈ names) (terms : List String) (bound : Nat) :
    MadeOf names (Fragment.text bound (prefixMatchFragment column terms)).toList := by
  let middle := ") @@ to_tsquery('simple', array_to_string(" ++
    "ARRAY(SELECT quote_literal(t) || ':*' FROM unnest("
  have hcalls : MadeOf names (column ++ middle).toList := by
    rw [String.toList_append]
    exact (madeOf_name hcolumn).append (madeOf_words names (by decide)) (by decide)
  have hopening : MadeOf names ("to_tsvector('simple',".toList ++ ' ' :: (column ++ middle).toList) :=
    (madeOf_words names (by decide)).append (hcalls.cons (by decide)) rfl
  have hname : MadeOf names ("to_tsvector('simple', " ++ column ++ middle).toList := by
    simpa [String.append_assoc] using hopening
  have hclosing : MadeOf names "::text[]) AS t), ' | '))".toList := madeOf_words names (by decide)
  have htext := hname.around_value hclosing (by decide) (.textArray terms) bound
  simpa only [prefixMatchFragment, middle, String.append_assoc] using htext

lemma madeOf_join {k : String} (hk : k ∈ ["AND", "OR", "UNION"]) {fs : List Fragment}
    (h : ∀ f ∈ fs, ∀ bound, MadeOf names (f.text bound).toList) (bound : Nat) :
    MadeOf names (Fragment.text bound (Fragment.join (" " ++ k ++ " ") fs)).toList := by
  have hwords : ∀ k ∈ ["AND", "OR", "UNION"], identifiers k.toList ⊆ conditionWords := by decide
  have htexts := Fragment.forall_mem_texts (P := fun s => MadeOf names s.toList) h bound
  have hjoin := MadeOf.intercalate (madeOf_words names (hwords k hk))
    (l := (Fragment.texts bound fs).map String.toList) (by simpa using htexts)
  rw [Fragment.text_join, String.toList_intercalate]
  simpa using hjoin

lemma madeOf_enclosed {f : Fragment} {bound : Nat} (h : MadeOf names (f.text bound).toList)
    {opening : String} (hopening : MadeOf names opening.toList) :
    MadeOf names (Fragment.text bound (.sql (opening ++ "(") :: f ++ [.sql ")"])).toList := by
  have hcontent : MadeOf names ('(' :: ((f.text bound).toList ++ [')'])) :=
    (h.append (madeOf_words names (by decide)) (by decide)).cons (by decide)
  have htext : (Fragment.text bound (.sql (opening ++ "(") :: f ++ [.sql ")"])).toList =
      opening.toList ++ '(' :: ((f.text bound).toList ++ [')']) := by
    simp [Fragment.text, Fragment.text_append]
  rw [htext]
  exact hopening.append hcontent rfl

lemma madeOf_combine {k : String} (hk : k ∈ ["AND", "OR", "UNION"]) {fs : List Fragment}
    (h : ∀ f ∈ fs, ∀ bound, MadeOf names (f.text bound).toList) :
    ∀ f ∈ Fragment.combine (" " ++ k ++ " ") fs, ∀ bound, MadeOf names (f.text bound).toList := by
  match fs, h with
  | [], _ => exact fun f hf => nomatch hf
  | [g], h => exact fun f hf => Option.some.inj hf ▸ h g List.mem_cons_self
  | g :: g' :: fs, h =>
    rintro f ⟨⟩ bound
    have hopening : MadeOf names "".toList := madeOf_words names (by decide)
    have henclosed := madeOf_enclosed (madeOf_join hk h bound) hopening
    rwa [String.empty_append] at henclosed

mutual

/-- The names in the text of a condition are from its columns and sub-selects. -/
lemma madeOf_fragment? :
    ∀ p : Predicate, ∀ f ∈ p.fragment?, ∀ bound, MadeOf p.names (f.text bound).toList
  | like column patterns negated => by
    have hpatterns : ∀ f ∈ patterns.map (likeFragment column negated), ∀ bound,
        MadeOf [column] (f.text bound).toList := by
      intro f hf bound
      obtain ⟨pattern, -, rfl⟩ := List.mem_map.mp hf
      exact madeOf_likeFragment List.mem_cons_self negated pattern bound
    cases negated with
    | false => exact madeOf_combine (k := "OR") (by decide) hpatterns
    | true => exact madeOf_combine (k := "AND") (by decide) hpatterns
  | anyOf column values negated => by
    rw [fragment?]
    split
    · exact fun f hf => nomatch hf
    · rintro f ⟨⟩ bound
      cases negated with
      | false =>
        exact madeOf_comparison List.mem_cons_self (by decide) (by decide) (by decide) (by decide)
          (.textArray values) bound
      | true =>
        exact madeOf_comparison List.mem_cons_self (by decide) (by decide) (by decide) (by decide)
          (.textArray values) bound
  | idIn column ids => by
    rintro f ⟨⟩ bound
    exact madeOf_comparison List.mem_cons_self (by decide) (by decide) (by decide) (by decide)
      (.bigintArray ids) bound
  | membership column selects negated => by
    have hselects := madeOf_selectFragments selects
    rw [fragment?]
    split
    · exact fun f hf => nomatch hf
    · rintro f ⟨⟩ bound
      let names := (membership column selects negated).names
      have hnames : ∀ f ∈ selectFragments selects, ∀ bound, MadeOf names (f.text bound).toList :=
        fun f hf bound => (hselects f hf bound).mono (List.subset_cons_self column _)
      have hjoin := madeOf_join (k := "UNION") (by decide) hnames bound
      have hopening : ∀ operator : String, identifiers operator.toList ⊆ conditionWords →
          isApart operator.toList = true →
          MadeOf names (column ++ operator).toList := by
        intro operator hwords hhead
        rw [String.toList_append]
        exact (madeOf_name List.mem_cons_self).append (madeOf_words names hwords) hhead
      cases negated with
      | false =>
        have htext := madeOf_enclosed hjoin (hopening " IN " (by decide) (by decide))
        simpa [String.append_assoc] using htext
      | true =>
        have htext := madeOf_enclosed hjoin (hopening " NOT IN " (by decide) (by decide))
        simpa [String.append_assoc] using htext
  | prefixMatch column terms => by
    rintro f ⟨⟩ bound
    split
    · have hword : MadeOf (prefixMatch column terms).names "FALSE".toList :=
        madeOf_words _ (by decide)
      simpa [Fragment.text] using hword
    · exact madeOf_prefixMatchFragment List.mem_cons_self terms bound
  | and parts => madeOf_combine (k := "AND") (by decide) (madeOf_fragments parts)
  | or parts => madeOf_combine (k := "OR") (by decide) (madeOf_fragments parts)

lemma madeOf_fragments :
    ∀ ps : List Predicate, ∀ f ∈ fragments ps, ∀ bound,
      MadeOf (namesOfAll ps) (f.text bound).toList
  | [] => fun f hf => nomatch hf
  | p :: ps => by
    intro f hf bound
    rw [fragments, List.mem_append, Option.mem_toList] at hf
    rcases hf with hf | hf
    · exact (madeOf_fragment? p f hf bound).mono (List.subset_append_left _ _)
    · exact (madeOf_fragments ps f hf bound).mono (List.subset_append_right _ _)

lemma madeOf_selectFragment :
    ∀ s : SubSelect, ∀ bound, MadeOf (namesOfSelect s) ((selectFragment s).text bound).toList
  | .whole head => by
    intro bound
    have hhead : MadeOf (namesOfSelect (.whole head)) head.toList := madeOf_name List.mem_cons_self
    simpa [selectFragment, Fragment.text] using hhead
  | .filtered head filter => by
    intro bound
    have hhead : MadeOf (namesOfSelect (.filtered head filter)) head.toList :=
      madeOf_name List.mem_cons_self
    rw [selectFragment]
    split
    · simpa [Fragment.text] using hhead
    · next f hf =>
      have hfilter : MadeOf (namesOfSelect (.filtered head filter)) (f.text bound).toList :=
        (madeOf_fragment? filter f hf bound).mono (List.subset_cons_self head _)
      have hwhere : MadeOf (namesOfSelect (.filtered head filter))
          (' ' :: ("WHERE".toList ++ ' ' :: (f.text bound).toList)) :=
        ((madeOf_words _ (by decide)).append (hfilter.cons (by decide))
          rfl).cons (by decide)
      have htext := hhead.append hwhere rfl
      simpa [Fragment.text] using htext

lemma madeOf_selectFragments :
    ∀ ss : List SubSelect, ∀ f ∈ selectFragments ss, ∀ bound,
      MadeOf (namesOfSelects ss) (f.text bound).toList
  | [] => fun f hf => nomatch hf
  | s :: ss => by
    intro f hf bound
    rw [selectFragments, List.mem_cons] at hf
    rcases hf with rfl | hf
    · exact (madeOf_selectFragment s bound).mono (List.subset_append_left _ _)
    · exact (madeOf_selectFragments ss f hf bound).mono (List.subset_append_right _ _)

end

/-- However a condition is numbered, its text has the identifiers of a column. -/
def Mentions (column : String) (f : Fragment) : Prop :=
  ∀ bound, identifiers column.toList ⊆ identifiers (f.text bound).toList

lemma mentions_operator {operator : String} {f : Fragment}
    (h : isApart operator.toList = true) (hne : operator ≠ "") :
    Mentions column (.sql (column ++ operator) :: f) := by
  intro bound w hw
  have hhead := isApart_text_sql h hne f bound
  rw [Fragment.text, String.toList_append] at hhead
  have htext : (Fragment.text bound (.sql (column ++ operator) :: f)).toList =
      column.toList ++ (operator.toList ++ (f.text bound).toList) := by
    simp [Fragment.text]
  rw [htext, identifiers_append _ hhead]
  exact List.mem_append_left _ hw

lemma mentions_combine {k : String} {fs : List Fragment} (h : ∀ f ∈ fs, Mentions column f) :
    ∀ f ∈ Fragment.combine (" " ++ k ++ " ") fs, Mentions column f := by
  match fs, h with
  | [], _ => exact fun f hf => nomatch hf
  | [g], h => exact fun f hf => Option.some.inj hf ▸ h g List.mem_cons_self
  | g :: g' :: fs, h =>
    rintro f ⟨⟩ bound w hw
    have hfirst : (g.text bound).toList ∈ (Fragment.texts bound (g :: g' :: fs)).map String.toList :=
      List.mem_map_of_mem List.mem_cons_self
    have hjoin := mem_identifiers_intercalate (k := k.toList) hfirst
      (h g List.mem_cons_self bound hw)
    have htext : (Fragment.text bound (.sql "(" ::
        Fragment.join (" " ++ k ++ " ") (g :: g' :: fs) ++ [.sql ")"])).toList =
        '(' :: ((' ' :: (k.toList ++ [' '])).intercalate
          ((Fragment.texts bound (g :: g' :: fs)).map String.toList) ++ [')']) := by
      simp [Fragment.text, Fragment.text_append, Fragment.text_join, String.toList_intercalate]
    rw [htext, identifiers_cons (by decide), identifiers_append_cons (by decide)]
    exact List.mem_append_left _ hjoin

lemma mentions_like (patterns : List String) (negated : Bool) :
    ∀ f ∈ (like column patterns negated).fragment?, Mentions column f := by
  have hpatterns : ∀ f ∈ patterns.map (likeFragment column negated), Mentions column f := by
    intro f hf
    obtain ⟨pattern, -, rfl⟩ := List.mem_map.mp hf
    cases negated with
    | false => exact mentions_operator (by decide) (by decide)
    | true => exact mentions_operator (by decide) (by decide)
  cases negated with
  | false => exact mentions_combine (k := "OR") hpatterns
  | true => exact mentions_combine (k := "AND") hpatterns

lemma mentions_anyOf (values : List String) (negated : Bool) :
    ∀ f ∈ (anyOf column values negated).fragment?, Mentions column f := by
  rw [fragment?]
  split
  · exact fun f hf => nomatch hf
  · rintro f ⟨⟩
    cases negated with
    | false => exact mentions_operator (by decide) (by decide)
    | true => exact mentions_operator (by decide) (by decide)

lemma mentions_and {p p' : Predicate} (h : ∀ f ∈ p.fragment?, Mentions column f)
    (h' : ∀ f ∈ p'.fragment?, Mentions column f) :
    ∀ f ∈ (and [p, p']).fragment?, Mentions column f := by
  have hparts : ∀ f ∈ fragments [p, p'], Mentions column f := by
    intro f hf
    rw [fragments_eq_filterMap] at hf
    obtain ⟨part, hpart, htext⟩ := List.mem_filterMap.mp hf
    rcases List.mem_pair.mp hpart with rfl | rfl
    · exact h f htext
    · exact h' f htext
  exact mentions_combine (k := "AND") hparts

end Predicate

end FacetSearch
