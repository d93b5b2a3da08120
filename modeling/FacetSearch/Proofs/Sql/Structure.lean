import FacetSearch.Proofs.Sql.Inlined
import FacetSearch.Proofs.Sql.Operand

/-!
# The structure of conditions

The text of a condition shows its structure. It is an operand, so that it keeps its meaning next to
AND and OR, and where it joins several conditions these are read back from the text between its
outer parentheses. All this holds of names that have neither parentheses nor keywords in them.
-/

namespace FacetSearch

/-- A name that does not disturb the structure of a text. -/
structure Inert (name : String) : Prop where
  ne_empty : name ≠ ""
  flat : Sql.Flat name.toList
  words : ∀ w ∈ name.toList.splitOn ' ', w ∉ Sql.keywords

instance (name : String) : Decidable (Inert name) :=
  decidable_of_iff (name ≠ "" ∧ Sql.Flat name.toList ∧
      ∀ w ∈ name.toList.splitOn ' ', w ∉ Sql.keywords)
    ⟨fun h => ⟨h.1, h.2.1, h.2.2⟩, fun h => ⟨h.ne_empty, h.flat, h.words⟩⟩

/-- All names in a list are inert. -/
def InertNames (names : List String) : Prop := ∀ name ∈ names, Inert name

instance (names : List String) : Decidable (InertNames names) :=
  inferInstanceAs (Decidable (∀ name ∈ names, Inert name))

lemma Inert.operand {name : String} (h : Inert name) : Sql.Operand name.toList :=
  h.flat.operand h.words

lemma Inert.condition {name : String} (h : Inert name) {cs : List Char} (hcs : Sql.Condition cs) :
    Sql.Condition (name.toList ++ ' ' :: cs) :=
  hcs.append_space h.operand (h.flat.opens h.words)

namespace Fragment

/-- The texts of fragments that follow one another in a statement. -/
def texts (bound : Nat) : List Fragment → List String
  | [] => []
  | f :: fs => text bound f :: texts (bound + f.binds.length) fs

@[simp] lemma length_texts (bound : Nat) (fs : List Fragment) :
    (texts bound fs).length = fs.length := by
  induction fs generalizing bound with
  | nil => rfl
  | cons f fs ih => rw [texts, List.length_cons, ih, List.length_cons]

lemma forall_mem_texts {P : String → Prop} {fs : List Fragment}
    (h : ∀ f ∈ fs, ∀ bound, P (text bound f)) (bound : Nat) : ∀ s ∈ texts bound fs, P s := by
  induction fs generalizing bound with
  | nil => exact fun s hs => nomatch hs
  | cons f fs ih =>
    intro s hs
    rcases List.mem_cons.mp hs with rfl | hs
    · exact h f List.mem_cons_self bound
    · exact ih (fun g hg => h g (List.mem_cons_of_mem f hg)) _ s hs

lemma text_join (bound : Nat) (separator : String) (fs : List Fragment) :
    text bound (join separator fs) = separator.intercalate (texts bound fs) := by
  match fs with
  | [] => rfl
  | [f] => simp [join, texts]
  | f :: g :: fs =>
    have ih := text_join (bound + f.binds.length) separator (g :: fs)
    rw [join_cons_cons, text_append, text, ih]
    simp [texts, String.append_assoc]

lemma text_join_ne_nil {separator : String} {fs : List Fragment} (hne : fs ≠ [])
    (h : ∀ f ∈ fs, ∀ bound, (text bound f).toList ≠ []) (bound : Nat) :
    (text bound (join separator fs)).toList ≠ [] := by
  match fs, h with
  | [], _ => exact absurd rfl hne
  | [f], h => exact h f List.mem_cons_self bound
  | f :: g :: fs, h =>
    have hf := h f List.mem_cons_self bound
    rw [join_cons_cons, text_append, String.toList_append]
    exact List.append_ne_nil_of_left_ne_nil hf _

end Fragment

namespace Sql

/-- The place of a value is a word. -/
lemma plain_place (n : Nat) {t : String} (ht : Plain t.toList) :
    Plain ("$" ++ toString n ++ t).toList := by
  have htext : ("$" ++ toString n ++ t).toList = '$' :: (Nat.toDigits 10 n ++ t.toList) := by simp
  have hdigits : ∀ c ∈ Nat.toDigits 10 n, c.isDigit = true := fun c hc =>
    Nat.isDigit_of_mem_toDigits (by decide) (by decide) hc
  have hnot (c : Char) (hc : c ≠ '$') (hdigit : c.isDigit = false) (hmem : c ∉ t.toList) :
      c ∉ '$' :: (Nat.toDigits 10 n ++ t.toList) := by
    rw [List.mem_cons, List.mem_append]
    rintro (rfl | h | h)
    · exact hc rfl
    · exact absurd (hdigits c h) (by simp [hdigit])
    · exact hmem h
  rw [htext]
  refine ⟨⟨hnot _ (by decide) (by decide) ht.flat.1, hnot _ (by decide) (by decide) ht.flat.2⟩,
    hnot _ (by decide) (by decide) ht.space, ?_⟩
  have hkeywords : ∀ k ∈ keywords, '$' ∉ k := by decide
  exact fun hk => hkeywords _ hk List.mem_cons_self

end Sql

namespace Predicate

open Sql

variable {column : String}

lemma condition_likeFragment (h : Inert column) (negated : Bool) (pattern : String) (bound : Nat) :
    Condition (Fragment.text bound (likeFragment column negated pattern)).toList := by
  have hplace : Plain ("$" ++ toString (bound + 1) ++ "").toList := plain_place _ (by decide)
  have hescape : Condition ("ESCAPE".toList ++ ' ' :: "E'\\\\'".toList) :=
    (Plain.condition (by decide) (by decide)).append_plain (by decide)
  have hpattern := (hescape.append_plain hplace).append_plain (w := "ILIKE".toList) (by decide)
  cases negated with
  | false =>
    have hcondition := h.condition hpattern
    simpa [likeFragment, Fragment.text, String.append_assoc] using hcondition
  | true =>
    have hcondition := h.condition (hpattern.append_plain (w := "NOT".toList) (by decide))
    simpa [likeFragment, Fragment.text, String.append_assoc] using hcondition

/-- The comparisons of a name with the patterns. -/
lemma condition_likeFragments (h : Inert column) (negated : Bool) (patterns : List String) :
    ∀ f ∈ patterns.map (likeFragment column negated), ∀ bound,
      Condition (f.text bound).toList := by
  intro f hf
  obtain ⟨pattern, -, rfl⟩ := List.mem_map.mp hf
  exact condition_likeFragment h negated pattern

/-- A comparison with any or all values of an array. -/
lemma condition_array (h : Inert column) {opening closing : String} (operator call type : String)
    (hopening : opening = " " ++ operator ++ " " ++ call ++ "(") (hclosing : closing = type ++ ")")
    (hoperator : Plain operator.toList) (hcall : Plain call.toList) (htype : Plain type.toList)
    (b : Bind) (bound : Nat) :
    Condition (Fragment.text bound [.sql (column ++ opening), .value b, .sql closing]).toList := by
  have hplace : Plain ("$" ++ toString (bound + 1) ++ type).toList := plain_place _ htype
  have hvalues := Condition.call (t := []) hplace.operand.toContent (by simp) hcall (by decide)
  have hcondition := h.condition (hvalues.append_plain hoperator)
  simpa [Fragment.text, hopening, hclosing, String.append_assoc] using hcondition

lemma condition_prefixMatchFragment (h : Inert column) (terms : List String) (bound : Nat) :
    Condition (Fragment.text bound (prefixMatchFragment column terms)).toList := by
  -- From the inside out: the words looked for, each quoted, then joined, then compared.
  have hplace : Plain ("$" ++ toString (bound + 1) ++ "::text[]").toList :=
    plain_place _ (by decide)
  have hword {w : String} (hw : Plain w.toList) : Content w.toList := hw.operand.toContent
  have hunnest : Content ("unnest".toList ++ '(' :: (_ ++ ')' :: "".toList)) :=
    Content.call hplace.operand.toContent (by simp) (by decide) (by decide)
  have hquote : Content ("quote_literal".toList ++ '(' :: ("t".toList ++ ')' :: "".toList)) :=
    Content.call (hword (by decide)) (by decide) (by decide) (by decide)
  have hselect : Content ("SELECT".toList ++ ' ' :: (_ ++ ' ' :: ("||".toList ++ ' ' ::
      ("':*'".toList ++ ' ' :: ("FROM".toList ++ ' ' :: (_ ++ ' ' ::
        ("AS".toList ++ ' ' :: "t".toList))))))) :=
    (hword (by decide)).append_space <| hquote.append_space <| (hword (by decide)).append_space <|
      (hword (by decide)).append_space <| (hword (by decide)).append_space <|
      hunnest.append_space <| (hword (by decide)).append_space (hword (by decide))
  have harray : Content ("ARRAY".toList ++ '(' :: (_ ++ ')' :: ",".toList)) :=
    Content.call hselect (by simp) (by decide) (by decide)
  have hbar : Content ("'".toList ++ ' ' :: ("|".toList ++ ' ' :: "'".toList)) :=
    (hword (by decide)).append_space ((hword (by decide)).append_space (hword (by decide)))
  have hjoined : Content ("array_to_string".toList ++ '(' :: (_ ++ ')' :: "".toList)) :=
    Content.call (harray.append_space hbar) (by simp) (by decide) (by decide)
  have hquery : Condition ("to_tsquery".toList ++ '(' :: (_ ++ ')' :: "".toList)) :=
    Condition.call ((hword (w := "'simple',") (by decide)).append_space hjoined) (by simp)
      (by decide) (by decide)
  have hvector : Condition ("to_tsvector".toList ++ '(' :: (_ ++ ')' :: "".toList)) :=
    Condition.call ((hword (w := "'simple',") (by decide)).append_space h.operand.toContent)
      (by simp) (by decide) (by decide)
  have hmatch := hvector.append_operand
    (hquery.append_plain (w := "@@".toList) (by decide)).toOperand
  simpa [prefixMatchFragment, Fragment.text, String.append_assoc] using hmatch

lemma content_of_mem_joiners : ∀ k ∈ ["AND", "OR", "UNION"], Content k.toList := by
  intro k hk
  have hflat : ∀ k ∈ ["AND", "OR", "UNION"], Flat k.toList := by decide
  have hwhere : ∀ k ∈ ["AND", "OR", "UNION"], "WHERE".toList ∉ k.toList.splitOn ' ' := by decide
  exact (hflat k hk).content (hwhere k hk)

lemma content_join {k : String} (hk : k ∈ ["AND", "OR", "UNION"]) {fs : List Fragment}
    (h : ∀ f ∈ fs, ∀ bound, Content (f.text bound).toList) (hne : fs ≠ []) (bound : Nat) :
    Content (Fragment.text bound (Fragment.join (" " ++ k ++ " ") fs)).toList := by
  have htexts := Fragment.forall_mem_texts (P := fun s => Content s.toList) h bound
  have hcontents := Content.intercalate (content_of_mem_joiners k hk)
    (l := (Fragment.texts bound fs).map String.toList)
    (by simpa using htexts) (by simpa [← List.length_eq_zero_iff] using hne)
  rw [Fragment.text_join, String.toList_intercalate]
  simpa using hcontents

lemma condition_combine {k : String} (hk : k ∈ ["AND", "OR", "UNION"]) {fs : List Fragment}
    (h : ∀ f ∈ fs, ∀ bound, Condition (f.text bound).toList) :
    ∀ f ∈ Fragment.combine (" " ++ k ++ " ") fs, ∀ bound, Condition (f.text bound).toList := by
  match fs, h with
  | [], _ => exact fun f hf => nomatch hf
  | [g], h => exact fun f hf => Option.some.inj hf ▸ h g List.mem_cons_self
  | g :: g' :: fs, h =>
    rintro f ⟨⟩ bound
    have hjoin := content_join hk (fun f hf bound => (h f hf bound).toContent) (by simp) bound
    have henclosed := hjoin.enclose <| Fragment.text_join_ne_nil (by simp)
      (fun f hf bound => (h f hf bound).ne_nil) bound
    simpa [Fragment.text, Fragment.text_append] using henclosed

/-- A name compared with what sub-selects find. -/
lemma condition_membership (h : Inert column) (negated : Bool) {fs : List Fragment} (hne : fs ≠ [])
    (hcontents : ∀ f ∈ fs, ∀ bound, Content (f.text bound).toList)
    (htexts : ∀ f ∈ fs, ∀ bound, (f.text bound).toList ≠ []) (bound : Nat) :
    Condition (Fragment.text bound (.sql (column ++ (if negated then " NOT IN (" else " IN (")) ::
      Fragment.join " UNION " fs ++ [.sql ")"])).toList := by
  have hjoin := content_join (k := "UNION") (by decide) hcontents hne bound
  have hin := (hjoin.enclose (Fragment.text_join_ne_nil hne htexts bound)).append_plain
    (w := "IN".toList) (by decide)
  cases negated with
  | false => simpa [Fragment.text, Fragment.text_append] using h.condition hin
  | true =>
    have hnot := hin.append_plain (w := "NOT".toList) (by decide)
    simpa [Fragment.text, Fragment.text_append] using h.condition hnot

lemma fragments_eq_filterMap (ps : List Predicate) : fragments ps = ps.filterMap fragment? := by
  induction ps with
  | nil => rfl
  | cons p ps ih =>
    rw [fragments, ih, List.filterMap_cons]
    cases p.fragment? <;> rfl

lemma text_selectFragment_ne_nil {s : SubSelect} (h : InertNames (namesOfSelect s)) (bound : Nat) :
    ((selectFragment s).text bound).toList ≠ [] := by
  cases s with
  | whole head =>
    have hhead := (h head List.mem_cons_self).ne_empty
    simpa [selectFragment, Fragment.text] using hhead
  | filtered head filter =>
    have hhead := (h head List.mem_cons_self).ne_empty
    rw [selectFragment]
    split <;> simp [Fragment.text, hhead]

lemma text_ne_nil_of_mem_selectFragments {ss : List SubSelect}
    (h : InertNames (namesOfSelects ss)) :
    ∀ f ∈ selectFragments ss, ∀ bound, (f.text bound).toList ≠ [] := by
  induction ss with
  | nil =>
    intro f hf
    cases hf
  | cons s ss ih =>
    intro f hf
    rw [selectFragments, List.mem_cons] at hf
    rcases hf with rfl | hf
    · exact text_selectFragment_ne_nil fun name hname => h name (List.mem_append_left _ hname)
    · exact ih (fun name hname => h name (List.mem_append_right _ hname)) f hf

lemma selectFragments_ne_nil {ss : List SubSelect} (h : ¬ ss.isEmpty = true) :
    selectFragments ss ≠ [] := by
  cases ss with
  | nil => exact absurd rfl h
  | cons s ss => exact List.cons_ne_nil _ _

mutual

/-- The text of a predicate whose names are inert is a condition. -/
lemma condition_fragment? :
    ∀ p : Predicate, InertNames p.names →
      ∀ f ∈ p.fragment?, ∀ bound, Condition (f.text bound).toList
  | like column patterns negated, h => by
    have hpatterns := condition_likeFragments (h column List.mem_cons_self) negated patterns
    cases negated with
    | false => exact condition_combine (k := "OR") (by decide) hpatterns
    | true => exact condition_combine (k := "AND") (by decide) hpatterns
  | anyOf column values negated, h => by
    have hcolumn := h column List.mem_cons_self
    rw [fragment?]
    split
    · exact fun f hf => nomatch hf
    · rintro f ⟨⟩ bound
      cases negated with
      | false =>
        exact condition_array hcolumn "=" "ANY" "::text[]" rfl rfl
          (by decide) (by decide) (by decide) (.textArray values) bound
      | true =>
        exact condition_array hcolumn "<>" "ALL" "::text[]" rfl rfl
          (by decide) (by decide) (by decide) (.textArray values) bound
  | idIn column ids, h => by
    have hcolumn := h column List.mem_cons_self
    rintro f ⟨⟩ bound
    exact condition_array hcolumn "=" "ANY" "::bigint[]" rfl rfl
      (by decide) (by decide) (by decide) (.bigintArray ids) bound
  | membership column selects negated, h => by
    have hcolumn := h column List.mem_cons_self
    have hnames : InertNames (namesOfSelects selects) := fun name hname =>
      h name (List.mem_cons_of_mem column hname)
    rw [fragment?]
    split
    · exact fun f hf => nomatch hf
    · next hsome =>
      rintro f ⟨⟩ bound
      exact condition_membership hcolumn negated (selectFragments_ne_nil hsome)
        (content_selectFragments selects hnames) (text_ne_nil_of_mem_selectFragments hnames) bound
  | prefixMatch column terms, h => by
    have hcolumn := h column List.mem_cons_self
    rintro f ⟨⟩ bound
    split
    · have hfalse : Condition "FALSE".toList := Plain.condition (by decide) (by decide)
      simpa [Fragment.text] using hfalse
    · exact condition_prefixMatchFragment hcolumn terms bound
  | and parts, h => condition_combine (k := "AND") (by decide) (condition_fragments parts h)
  | or parts, h => condition_combine (k := "OR") (by decide) (condition_fragments parts h)

lemma condition_fragments :
    ∀ ps : List Predicate, InertNames (namesOfAll ps) →
      ∀ f ∈ fragments ps, ∀ bound, Condition (f.text bound).toList
  | [], _ => fun f hf => nomatch hf
  | p :: ps, h => by
    intro f hf
    rw [fragments, List.mem_append, Option.mem_toList] at hf
    rcases hf with hf | hf
    · exact condition_fragment? p (fun name hname => h name (List.mem_append_left _ hname)) f hf
    · exact condition_fragments ps (fun name hname => h name (List.mem_append_right _ hname)) f hf

lemma content_selectFragment :
    ∀ s : SubSelect, InertNames (namesOfSelect s) →
      ∀ bound, Content ((selectFragment s).text bound).toList
  | .whole head, h => by
    have hhead := h head List.mem_cons_self
    intro bound
    simpa [selectFragment, Fragment.text] using hhead.operand.toContent
  | .filtered head filter, h => by
    have hhead := h head List.mem_cons_self
    have hfilter := condition_fragment? filter fun name hname =>
      h name (List.mem_cons_of_mem head hname)
    intro bound
    rw [selectFragment]
    split
    · simpa [Fragment.text] using hhead.operand.toContent
    · next f hf =>
      have hrestricted := hhead.operand.toContent.restrict (hfilter f hf bound)
      simpa [Fragment.text] using hrestricted

lemma content_selectFragments :
    ∀ ss : List SubSelect, InertNames (namesOfSelects ss) →
      ∀ f ∈ selectFragments ss, ∀ bound, Content (f.text bound).toList
  | [], _ => fun f hf => nomatch hf
  | s :: ss, h => by
    intro f hf
    rw [selectFragments, List.mem_cons] at hf
    rcases hf with rfl | hf
    · exact content_selectFragment s (fun name hname => h name (List.mem_append_left _ hname))
    · exact content_selectFragments ss (fun name hname =>
        h name (List.mem_append_right _ hname)) f hf

end

end Predicate

end FacetSearch
