import FacetSearch.Proofs.Sql.Placeholder

/-!
# Conditions and orders with their values in place

The SQL of predicates and orders in which every value is written where it is compared, without
numbered places. It has the text that the fragments of predicates and orders have once their
values are put in, and these fragments are closed as long as no name in them holds a dollar
sign.
-/

namespace FacetSearch

/-- No name in a list of names holds a dollar sign. -/
def DollarFree (names : List String) : Prop := ∀ name ∈ names, '$' ∉ name.toList

namespace Fragment

/-- Texts as one operand, several of them in parentheses with `joiner` in between. -/
def combineTexts (joiner : String) : List String → Option String
  | [] => none
  | [s] => some s
  | ss => some ("(" ++ joiner.intercalate ss ++ ")")

lemma inlined_join (literal : Bind → String) (separator : String) (fs : List Fragment) :
    inlined literal (join separator fs) = separator.intercalate (fs.map (inlined literal)) := by
  match fs with
  | [] => rfl
  | [f] => simp [join]
  | f :: g :: fs =>
    have ih := inlined_join literal separator (g :: fs)
    rw [join_cons_cons, inlined_append, inlined, ih, List.map_cons, List.map_cons, List.map_cons,
      String.intercalate_cons_cons, String.append_assoc]

lemma inlined_combine (literal : Bind → String) (joiner : String) (fs : List Fragment) :
    (combine joiner fs).map (inlined literal) =
      combineTexts joiner (fs.map (inlined literal)) := by
  match fs with
  | [] => rfl
  | [f] => rfl
  | f :: g :: fs =>
    simp only [combine, combineTexts, Option.map_some, List.map_cons]
    rw [List.cons_append, inlined, inlined_append, inlined_join]
    simp [inlined, String.append_assoc]

lemma Closed.join {separator : String} (hs : '$' ∉ separator.toList) {fs : List Fragment}
    (h : ∀ f ∈ fs, Closed f) : Closed (join separator fs) := by
  match fs, h with
  | [], _ => trivial
  | [f], h => exact h f List.mem_cons_self
  | f :: g :: fs, h =>
    have hrest := Closed.join hs (fun e he => h e (List.mem_cons_of_mem f he))
    rw [join_cons_cons]
    exact (h f List.mem_cons_self).append ⟨hs, hrest⟩

lemma Closed.combine {joiner : String} (hj : '$' ∉ joiner.toList) {fs : List Fragment}
    (h : ∀ f ∈ fs, Closed f) : ∀ f ∈ combine joiner fs, Closed f := by
  match fs, h with
  | [], _ => exact fun f hf => nomatch hf
  | [g], h => exact fun f hf => Option.some.inj hf ▸ h g List.mem_cons_self
  | g :: g' :: fs, h =>
    rintro f ⟨⟩
    have hopen : Closed [.sql "("] := ⟨by decide, trivial⟩
    have hclose : Closed [.sql ")"] := ⟨by decide, trivial⟩
    exact (hopen.append (Closed.join hj h)).append hclose

end Fragment

namespace Predicate

mutual

/-- The column names and heads of sub-selects in a predicate. -/
def names : Predicate → List String
  | like column _ _ => [column]
  | anyOf column _ _ => [column]
  | idIn column _ => [column]
  | membership column selects _ => column :: namesOfSelects selects
  | prefixMatch column _ => [column]
  | and parts => namesOfAll parts
  | or parts => namesOfAll parts

def namesOfAll : List Predicate → List String
  | [] => []
  | p :: ps => p.names ++ namesOfAll ps

def namesOfSelect : SubSelect → List String
  | .whole head => [head]
  | .filtered head filter => head :: filter.names

def namesOfSelects : List SubSelect → List String
  | [] => []
  | s :: ss => namesOfSelect s ++ namesOfSelects ss

end

mutual

/-- The SQL of a predicate with its values written in place, unless it constrains nothing. -/
def inlined? (literal : Bind → String) : Predicate → Option String
  | like column patterns negated =>
    Fragment.combineTexts (if negated then " AND " else " OR ") (patterns.map fun pattern =>
      column ++ (if negated then " NOT ILIKE " else " ILIKE ") ++ literal (.text pattern) ++
        " ESCAPE E'\\\\'")
  | anyOf column values negated =>
    if values.isEmpty then none
    else some (column ++ (if negated then " <> ALL(" else " = ANY(") ++
      literal (.textArray values) ++ "::text[])")
  | idIn column ids => some (column ++ " = ANY(" ++ literal (.bigintArray ids) ++ "::bigint[])")
  | membership column selects negated =>
    if selects.isEmpty then none
    else some (column ++ (if negated then " NOT IN (" else " IN (") ++
      " UNION ".intercalate (inlinedSelects literal selects) ++ ")")
  | prefixMatch column terms =>
    some (if terms.isEmpty then "FALSE"
      else "to_tsvector('simple', " ++ column ++ ") @@ to_tsquery('simple', array_to_string(" ++
        "ARRAY(SELECT quote_literal(t) || ':*' FROM unnest(" ++ literal (.textArray terms) ++
        "::text[]) AS t), ' | '))")
  | and parts => Fragment.combineTexts " AND " (inlinedAll literal parts)
  | or parts => Fragment.combineTexts " OR " (inlinedAll literal parts)

/-- The SQL of those predicates that constrain something. -/
def inlinedAll (literal : Bind → String) : List Predicate → List String
  | [] => []
  | p :: ps => (p.inlined? literal).toList ++ inlinedAll literal ps

def inlinedSelect (literal : Bind → String) : SubSelect → String
  | .whole head => head
  | .filtered head filter =>
    match filter.inlined? literal with
    | none => head
    | some s => head ++ " WHERE " ++ s

def inlinedSelects (literal : Bind → String) : List SubSelect → List String
  | [] => []
  | s :: ss => inlinedSelect literal s :: inlinedSelects literal ss

end

mutual

lemma map_inlined_fragment? (literal : Bind → String) :
    ∀ p : Predicate, p.fragment?.map (Fragment.inlined literal) = p.inlined? literal
  | like column patterns negated => by
    rw [fragment?, inlined?, Fragment.inlined_combine, List.map_map]
    congr 1
    apply List.map_congr_left
    intro pattern _
    simp [likeFragment, Fragment.inlined, String.append_assoc]
  | anyOf column values negated => by
    rw [fragment?, inlined?]
    split
    · rfl
    · simp [Fragment.inlined, String.append_assoc]
  | idIn column ids => by
    simp [fragment?, inlined?, Fragment.inlined, String.append_assoc]
  | membership column selects negated => by
    rw [fragment?, inlined?]
    split
    · rfl
    · rw [Option.map_some, List.cons_append, Fragment.inlined, Fragment.inlined_append,
        Fragment.inlined_join, map_inlined_selectFragments literal selects]
      simp [Fragment.inlined, String.append_assoc]
  | prefixMatch column terms => by
    rw [fragment?, inlined?]
    split
    · rfl
    · simp [prefixMatchFragment, Fragment.inlined, String.append_assoc]
  | and parts => by
    rw [fragment?, inlined?, Fragment.inlined_combine, map_inlined_fragments literal parts]
  | or parts => by
    rw [fragment?, inlined?, Fragment.inlined_combine, map_inlined_fragments literal parts]

lemma map_inlined_fragments (literal : Bind → String) :
    ∀ ps : List Predicate, (fragments ps).map (Fragment.inlined literal) = inlinedAll literal ps
  | [] => rfl
  | p :: ps => by
    rw [fragments, inlinedAll, List.map_append, map_inlined_fragments literal ps,
      ← map_inlined_fragment? literal p, Option.toList_map]

lemma inlined_selectFragment (literal : Bind → String) :
    ∀ s : SubSelect, Fragment.inlined literal (selectFragment s) = inlinedSelect literal s
  | .whole head => by simp [selectFragment, inlinedSelect, Fragment.inlined]
  | .filtered head filter => by
    rw [selectFragment, inlinedSelect, ← map_inlined_fragment? literal filter]
    cases filter.fragment? with
    | none => simp [Fragment.inlined]
    | some f => simp [Fragment.inlined, String.append_assoc]

lemma map_inlined_selectFragments (literal : Bind → String) :
    ∀ ss : List SubSelect,
      (selectFragments ss).map (Fragment.inlined literal) = inlinedSelects literal ss
  | [] => rfl
  | s :: ss => by
    rw [selectFragments, inlinedSelects, List.map_cons, inlined_selectFragment literal s,
      map_inlined_selectFragments literal ss]

end

lemma closed_likeFragment {column : String} (h : '$' ∉ column.toList) (negated : Bool)
    (pattern : String) : Fragment.Closed (likeFragment column negated pattern) := by
  have hcompare : '$' ∉ (column ++ if negated then " NOT ILIKE " else " ILIKE ").toList := by
    cases negated <;> simp [h]
  exact ⟨hcompare, ⟨' ', rfl, rfl⟩, by decide, trivial⟩

lemma closed_prefixMatchFragment {column : String} (h : '$' ∉ column.toList)
    (terms : List String) : Fragment.Closed (prefixMatchFragment column terms) := by
  have hcompare : '$' ∉ ("to_tsvector('simple', " ++ column ++
      ") @@ to_tsquery('simple', array_to_string(" ++
      "ARRAY(SELECT quote_literal(t) || ':*' FROM unnest(").toList := by
    simp [h]
  exact ⟨hcompare, ⟨':', rfl, rfl⟩, by decide, trivial⟩

mutual

/-- A predicate whose names hold no dollar sign has a closed fragment, if it has one. -/
lemma closed_fragment? :
    ∀ p : Predicate, DollarFree p.names → ∀ f ∈ p.fragment?, Fragment.Closed f
  | like column patterns negated, h => by
    have hcolumn : '$' ∉ column.toList := h column List.mem_cons_self
    refine Fragment.Closed.combine (by cases negated <;> decide) ?_
    intro f hf
    obtain ⟨pattern, -, rfl⟩ := List.mem_map.mp hf
    exact closed_likeFragment hcolumn negated pattern
  | anyOf column values negated, h => by
    have hcolumn : '$' ∉ column.toList := h column List.mem_cons_self
    have hcompare : '$' ∉ (column ++ if negated then " <> ALL(" else " = ANY(").toList := by
      cases negated <;> simp [hcolumn]
    rw [fragment?]
    split
    · exact fun f hf => nomatch hf
    · rintro f ⟨⟩
      exact ⟨hcompare, ⟨':', rfl, rfl⟩, by decide, trivial⟩
  | idIn column ids, h => by
    have hcolumn : '$' ∉ column.toList := h column List.mem_cons_self
    rintro f ⟨⟩
    exact ⟨by simp [hcolumn], ⟨':', rfl, rfl⟩, by decide, trivial⟩
  | membership column selects negated, h => by
    have hcolumn : '$' ∉ column.toList := h column List.mem_cons_self
    have hselects := closed_selectFragments selects
      (fun name hname => h name (List.mem_cons_of_mem column hname))
    have hcompare : '$' ∉ (column ++ if negated then " NOT IN (" else " IN (").toList := by
      cases negated <;> simp [hcolumn]
    have hclose : Fragment.Closed [.sql ")"] := ⟨by decide, trivial⟩
    rw [fragment?]
    split
    · exact fun f hf => nomatch hf
    · rintro f ⟨⟩
      exact ⟨hcompare, (Fragment.Closed.join (by decide) hselects).append hclose⟩
  | prefixMatch column terms, h => by
    have hcolumn : '$' ∉ column.toList := h column List.mem_cons_self
    rintro f ⟨⟩
    split
    · exact ⟨by decide, trivial⟩
    · exact closed_prefixMatchFragment hcolumn terms
  | and parts, h => Fragment.Closed.combine (by decide) (closed_fragments parts h)
  | or parts, h => Fragment.Closed.combine (by decide) (closed_fragments parts h)

lemma closed_fragments :
    ∀ ps : List Predicate, DollarFree (namesOfAll ps) → ∀ f ∈ fragments ps, Fragment.Closed f
  | [], _ => fun f hf => nomatch hf
  | p :: ps, h => by
    intro f hf
    rw [fragments, List.mem_append, Option.mem_toList] at hf
    rcases hf with hf | hf
    · exact closed_fragment? p (fun name hname => h name (List.mem_append_left _ hname)) f hf
    · exact closed_fragments ps (fun name hname => h name (List.mem_append_right _ hname)) f hf

lemma closed_selectFragment :
    ∀ s : SubSelect, DollarFree (namesOfSelect s) → Fragment.Closed (selectFragment s)
  | .whole head, h => ⟨h head List.mem_cons_self, trivial⟩
  | .filtered head filter, h => by
    have hhead : '$' ∉ head.toList := h head List.mem_cons_self
    have hfilter := closed_fragment? filter fun name hname =>
      h name (List.mem_cons_of_mem _ hname)
    rw [selectFragment]
    split
    · exact ⟨hhead, trivial⟩
    · next f hf => exact ⟨by simp [hhead], hfilter f hf⟩

lemma closed_selectFragments :
    ∀ ss : List SubSelect, DollarFree (namesOfSelects ss) →
      ∀ f ∈ selectFragments ss, Fragment.Closed f
  | [], _ => fun f hf => nomatch hf
  | s :: ss, h => by
    intro f hf
    rw [selectFragments, List.mem_cons] at hf
    rcases hf with rfl | hf
    · exact closed_selectFragment s (fun name hname => h name (List.mem_append_left _ hname))
    · exact closed_selectFragments ss (fun name hname =>
        h name (List.mem_append_right _ hname)) f hf

end

end Predicate

/-- The arm of a `CASE` for a tier with its values written in place. -/
def Tier.inlined? (literal : Bind → String) (t : Tier) : Option String :=
  (t.condition.inlined? literal).map fun s => "WHEN " ++ s ++ (" THEN " ++ toString t.rank)

namespace OrderKey

/-- The column names and heads of sub-selects in a key. -/
def names : OrderKey → List String
  | tiered tiers _ => tiers.flatMap fun t => t.condition.names
  | column name => [name]

/-- The SQL of a key with its values written in place, unless it orders nothing. -/
def inlined? (literal : Bind → String) : OrderKey → Option String
  | column name => some name
  | tiered tiers fallback =>
    match tiers.filterMap (Tier.inlined? literal) with
    | [] => none
    | arms => some ("CASE " ++ " ".intercalate arms ++ (" ELSE " ++ toString fallback ++ " END"))

end OrderKey

/-- The SQL of an order with its values written in place, unless it orders nothing. -/
def Order.inlined? (literal : Bind → String) (keys : List OrderKey) : Option String :=
  match keys.filterMap (OrderKey.inlined? literal) with
  | [] => none
  | items => some (", ".intercalate items)

lemma filterMap_inlined {α : Type} {fragment? : α → Option Fragment} {text? : α → Option String}
    {literal : Bind → String} (h : ∀ a, (fragment? a).map (Fragment.inlined literal) = text? a)
    (as : List α) :
    (as.filterMap fragment?).map (Fragment.inlined literal) = as.filterMap text? := by
  rw [List.map_filterMap]
  congr 1
  funext a
  exact h a

lemma Tier.map_inlined_arm? (literal : Bind → String) (t : Tier) :
    t.arm?.map (Fragment.inlined literal) = t.inlined? literal := by
  rw [arm?, inlined?, ← Predicate.map_inlined_fragment?]
  cases t.condition.fragment? with
  | none => rfl
  | some f => simp [Fragment.inlined, String.append_assoc]

lemma OrderKey.map_inlined_fragment? (literal : Bind → String) (k : OrderKey) :
    k.fragment?.map (Fragment.inlined literal) = k.inlined? literal := by
  cases k with
  | column name => simp [fragment?, inlined?, Fragment.inlined]
  | tiered tiers fallback =>
    rw [fragment?, inlined?, ← filterMap_inlined (Tier.map_inlined_arm? literal)]
    cases tiers.filterMap Tier.arm? with
    | nil => rfl
    | cons arm arms =>
      have harms := Fragment.inlined_join literal " " (arm :: arms)
      rw [List.map_cons] at harms
      simp [Fragment.inlined, harms, String.append_assoc]

lemma Order.map_inlined_fragment? (literal : Bind → String) (keys : List OrderKey) :
    (fragment? keys).map (Fragment.inlined literal) = inlined? literal keys := by
  rw [fragment?, inlined?, ← filterMap_inlined (OrderKey.map_inlined_fragment? literal)]
  cases keys.filterMap OrderKey.fragment? with
  | nil => rfl
  | cons item items =>
    have hitems := Fragment.inlined_join literal ", " (item :: items)
    rw [List.map_cons] at hitems
    simp [hitems]

lemma dollar_notMem_repr (n : Int) : '$' ∉ n.repr.toList := by
  have hdigits (m : Nat) : '$' ∉ (Nat.repr m).toList := by
    intro h
    rw [Nat.toList_repr] at h
    exact absurd (Nat.isDigit_of_mem_toDigits (by decide) (by decide) h) (by decide)
  cases n with
  | ofNat m => exact hdigits m
  | negSucc m =>
    have hsign : (Int.repr (Int.negSucc m)).toList = '-' :: (Nat.repr (m + 1)).toList := by
      rw [Int.repr, String.toList_append]
      rfl
    rw [hsign, List.mem_cons, not_or]
    exact ⟨by decide, hdigits (m + 1)⟩

lemma Tier.closed_arm? {t : Tier} (h : DollarFree t.condition.names) :
    ∀ f ∈ t.arm?, Fragment.Closed f := by
  intro f hf
  obtain ⟨g, hg, rfl⟩ := Option.map_eq_some_iff.mp hf
  have hrank : '$' ∉ (" THEN " ++ toString t.rank).toList := by
    simp [dollar_notMem_repr]
  have hwhen : Fragment.Closed [.sql "WHEN "] := ⟨by decide, trivial⟩
  exact (hwhen.append (Predicate.closed_fragment? _ h g hg)).append ⟨hrank, trivial⟩

lemma OrderKey.closed_fragment? {k : OrderKey} (h : DollarFree k.names) :
    ∀ f ∈ k.fragment?, Fragment.Closed f := by
  cases k with
  | column name =>
    rintro f ⟨⟩
    exact ⟨h name List.mem_cons_self, trivial⟩
  | tiered tiers fallback =>
    have harms : ∀ f ∈ tiers.filterMap Tier.arm?, Fragment.Closed f := by
      intro f hf
      obtain ⟨t, ht, hf⟩ := List.mem_filterMap.mp hf
      exact Tier.closed_arm? (fun name hname => h name (List.mem_flatMap.mpr ⟨t, ht, hname⟩)) f hf
    have hcase : Fragment.Closed [.sql "CASE "] := ⟨by decide, trivial⟩
    have helse : Fragment.Closed [.sql (" ELSE " ++ toString fallback ++ " END")] :=
      ⟨by simp [dollar_notMem_repr], trivial⟩
    rw [fragment?]
    split
    · exact fun f hf => nomatch hf
    · rintro f ⟨⟩
      exact (hcase.append (Fragment.Closed.join (by decide) harms)).append helse

lemma Order.closed_fragment? {keys : List OrderKey} (h : DollarFree (keys.flatMap OrderKey.names)) :
    ∀ f ∈ fragment? keys, Fragment.Closed f := by
  have hitems : ∀ f ∈ keys.filterMap OrderKey.fragment?, Fragment.Closed f := by
    intro f hf
    obtain ⟨k, hk, hf⟩ := List.mem_filterMap.mp hf
    exact OrderKey.closed_fragment?
      (fun name hname => h name (List.mem_flatMap.mpr ⟨k, hk, hname⟩)) f hf
  rw [fragment?]
  split
  · exact fun f hf => nomatch hf
  · rintro f ⟨⟩
    exact Fragment.Closed.join (by decide) hitems

end FacetSearch
