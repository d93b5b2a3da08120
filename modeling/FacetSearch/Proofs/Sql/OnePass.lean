import FacetSearch.Proofs.Sql.Structure
import FacetSearch.Proofs.Sql.Values

/-!
# Conditions and orders in one pass

SQL can also be written in one pass over a condition, with a list of the values bound so far that
grows on the way. The number of a place is then the length of that list. This gives the text and the
values of the fragment, whatever was bound before.
-/

namespace FacetSearch

/-- Something written while values are bound one after the other. -/
abbrev Binding (α : Type) := StateM (List Bind) α

namespace Binding

/-- One more value is bound, and its place is written. -/
def place (b : Bind) : Binding String := do
  modify (· ++ [b])
  return "$" ++ toString (← get).length

/-- Those of some items that have a text, one after the other. -/
def those {α : Type} (write : α → Binding (Option String)) : List α → Binding (List String)
  | [] => return []
  | a :: as => return (← write a).toList ++ (← those write as)

end Binding

namespace Predicate

open Binding (place)

def writeLike (column : String) (negated : Bool) (pattern : String) : Binding String :=
  return column ++ (if negated then " NOT ILIKE " else " ILIKE ") ++ (← place (.text pattern)) ++
    " ESCAPE E'\\\\'"

mutual

/-- The SQL of a predicate, unless it constrains nothing. -/
def write : Predicate → Binding (Option String)
  | like column patterns negated =>
    return Fragment.combineTexts (if negated then " AND " else " OR ")
      (← patterns.mapM (writeLike column negated))
  | anyOf column values negated =>
    if values.isEmpty then return none
    else return some (column ++ (if negated then " <> ALL(" else " = ANY(") ++
      (← place (.textArray values)) ++ "::text[])")
  | idIn column ids =>
    return some (column ++ " = ANY(" ++ (← place (.bigintArray ids)) ++ "::bigint[])")
  | membership column selects negated =>
    if selects.isEmpty then return none
    else return some (column ++ (if negated then " NOT IN (" else " IN (") ++
      " UNION ".intercalate (← writeSelects selects) ++ ")")
  | prefixMatch column terms =>
    if terms.isEmpty then return some "FALSE"
    else return some ("to_tsvector('simple', " ++ column ++
      ") @@ to_tsquery('simple', array_to_string(" ++
      "ARRAY(SELECT quote_literal(t) || ':*' FROM unnest(" ++ (← place (.textArray terms)) ++
      "::text[]) AS t), ' | '))")
  | and parts => return Fragment.combineTexts " AND " (← writeAll parts)
  | or parts => return Fragment.combineTexts " OR " (← writeAll parts)

/-- The SQL of those predicates that constrain something. -/
def writeAll : List Predicate → Binding (List String)
  | [] => return []
  | p :: ps => return (← write p).toList ++ (← writeAll ps)

def writeSelect : SubSelect → Binding String
  | .whole head => return head
  | .filtered head filter =>
    return match ← write filter with
      | none => head
      | some s => head ++ " WHERE " ++ s

def writeSelects : List SubSelect → Binding (List String)
  | [] => return []
  | s :: ss => return (← writeSelect s) :: (← writeSelects ss)

end

end Predicate

/-- The arm of a `CASE` for a tier. -/
def Tier.write (t : Tier) : Binding (Option String) :=
  return (← t.condition.write).map fun s => "WHEN " ++ s ++ " THEN " ++ toString t.rank

/-- The SQL of a key, unless it orders nothing. -/
def OrderKey.write : OrderKey → Binding (Option String)
  | column name => return some name
  | tiered tiers fallback =>
    return match ← Binding.those Tier.write tiers with
      | [] => none
      | arms => some ("CASE " ++ " ".intercalate arms ++ " ELSE " ++ toString fallback ++ " END")

/-- The SQL of an order, unless it orders nothing. -/
def Order.write (keys : List OrderKey) : Binding (Option String) :=
  return match ← Binding.those OrderKey.write keys with
    | [] => none
    | items => some (", ".intercalate items)

/-! ## Agreement with fragments -/

namespace Binding

variable {α : Type}

/-- The step writes the text of a fragment and binds its values. -/
def Writes (w : Binding String) (f : Fragment) : Prop :=
  ∀ bound, w bound = (f.text bound.length, bound ++ f.binds)

/-- The step writes the text of a fragment and binds its values, if there is a fragment. -/
def WritesIf (w : Binding (Option String)) (f : Option Fragment) : Prop :=
  ∀ bound, w bound = (f.map (Fragment.text bound.length), bound ++ (f.getD []).binds)

/-- The step writes the texts of fragments one after the other and binds all their values. -/
def WritesAll (w : Binding (List String)) (fs : List Fragment) : Prop :=
  ∀ bound, w bound = (Fragment.texts bound.length fs, bound ++ fs.flatMap Fragment.binds)

lemma run_pure (a : α) (bound : List Bind) : (pure a : Binding α) bound = (a, bound) := rfl

lemma run_bind {β : Type} (w : Binding α) (next : α → Binding β) (bound : List Bind) :
    (w >>= next) bound = next (w bound).1 (w bound).2 := rfl

lemma run_place (b : Bind) (bound : List Bind) :
    place b bound = ("$" ++ toString (bound.length + 1), bound ++ [b]) := by
  have hlength : (bound ++ [b]).length = bound.length + 1 := by simp
  rw [← hlength]
  rfl

lemma WritesAll.cons {w : Binding String} {ws : Binding (List String)} {f : Fragment}
    {fs : List Fragment} (h : Writes w f) (hs : WritesAll ws fs) :
    WritesAll (do return (← w) :: (← ws)) (f :: fs) := by
  intro bound
  simp only [run_bind, run_pure, h bound, hs (bound ++ f.binds), Fragment.texts,
    List.length_append, List.flatMap_cons, List.append_assoc]

lemma WritesAll.consIf {w : Binding (Option String)} {ws : Binding (List String)}
    {f : Option Fragment} {fs : List Fragment} (h : WritesIf w f) (hs : WritesAll ws fs) :
    WritesAll (do return (← w).toList ++ (← ws)) (f.toList ++ fs) := by
  intro bound
  cases f with
  | none =>
    simp only [run_bind, run_pure, h bound, Option.getD_none, Fragment.binds_nil, List.append_nil,
      hs bound, Option.map_none, Option.toList_none, List.nil_append]
  | some f =>
    simp only [run_bind, run_pure, h bound, Option.getD_some, hs (bound ++ f.binds),
      Option.map_some, Option.toList_some, List.cons_append, List.nil_append, Fragment.texts,
      List.length_append, List.flatMap_cons, List.append_assoc]

lemma writesAll_mapM {w : α → Binding String} {f : α → Fragment} (h : ∀ a, Writes (w a) (f a))
    (as : List α) : WritesAll (as.mapM w) (as.map f) := by
  induction as with
  | nil => intro bound; simp [run_pure, Fragment.texts]
  | cons a as ih =>
    rw [List.mapM_cons, List.map_cons]
    exact WritesAll.cons (h a) ih

lemma writesAll_those {w : α → Binding (Option String)} {f? : α → Option Fragment}
    (h : ∀ a, WritesIf (w a) (f? a)) (as : List α) :
    WritesAll (those w as) (as.filterMap f?) := by
  induction as with
  | nil => intro bound; simp [those, run_pure, Fragment.texts]
  | cons a as ih =>
    have hcons := WritesAll.consIf (h a) ih
    rw [those, List.filterMap_cons]
    cases hf : f? a with
    | none => simpa only [hf, Option.toList_none, List.nil_append] using hcons
    | some f => simpa only [hf, Option.toList_some, List.singleton_append] using hcons

lemma WritesAll.combine {ws : Binding (List String)} {fs : List Fragment} (h : WritesAll ws fs)
    (joiner : String) :
    WritesIf (do return Fragment.combineTexts joiner (← ws)) (Fragment.combine joiner fs) := by
  intro bound
  simp only [run_bind, run_pure, h bound, Fragment.binds_combine]
  congr 1
  match fs with
  | [] => rfl
  | [f] => rfl
  | f :: g :: fs =>
    simp [Fragment.combine, Fragment.combineTexts, Fragment.texts, Fragment.text,
      Fragment.text_append, Fragment.text_join, String.append_assoc]

end Binding

namespace Predicate

open Binding

lemma writes_like (column : String) (negated : Bool) (pattern : String) :
    Writes (writeLike column negated pattern) (likeFragment column negated pattern) := by
  intro bound
  simp [writeLike, run_bind, run_pure, run_place, likeFragment, Fragment.text,
    String.append_assoc]

mutual

/-- In one pass a predicate gives its fragment. -/
lemma writesIf_write : ∀ p : Predicate, WritesIf p.write p.fragment?
  | like column patterns negated => by
    rw [write, fragment?]
    exact (writesAll_mapM (writes_like column negated) patterns).combine _
  | anyOf column values negated => by
    rw [write, fragment?]
    intro bound
    split
    · simp [run_pure]
    · simp [run_bind, run_pure, run_place, Fragment.text, String.append_assoc]
  | idIn column ids => by
    intro bound
    simp [write, fragment?, run_bind, run_pure, run_place, Fragment.text, String.append_assoc]
  | membership column selects negated => by
    have hselects := writesAll_writeSelects selects
    rw [write, fragment?]
    intro bound
    split
    · simp [run_pure]
    · simp [run_bind, run_pure, hselects bound, Fragment.text, Fragment.text_append,
        Fragment.text_join, Fragment.binds_join, String.append_assoc]
  | prefixMatch column terms => by
    rw [write, fragment?]
    intro bound
    split
    · simp [run_pure, Fragment.text]
    · simp [run_bind, run_pure, run_place, prefixMatchFragment, Fragment.text,
        String.append_assoc]
  | and parts => by
    rw [write, fragment?]
    exact (writesAll_writeAll parts).combine _
  | or parts => by
    rw [write, fragment?]
    exact (writesAll_writeAll parts).combine _

lemma writesAll_writeAll : ∀ ps : List Predicate, WritesAll (writeAll ps) (fragments ps)
  | [] => fun bound => by simp [writeAll, fragments, run_pure, Fragment.texts]
  | p :: ps => by
    rw [writeAll, fragments]
    exact WritesAll.consIf (writesIf_write p) (writesAll_writeAll ps)

lemma writes_writeSelect : ∀ s : SubSelect, Writes (writeSelect s) (selectFragment s)
  | .whole head => fun bound => by
    simp [writeSelect, selectFragment, run_pure, Fragment.text]
  | .filtered head filter => by
    intro bound
    have hfilter := writesIf_write filter bound
    rw [writeSelect, selectFragment, run_bind, run_pure, hfilter]
    cases filter.fragment? with
    | none => simp [Fragment.text]
    | some f => simp [Fragment.text, String.append_assoc]

lemma writesAll_writeSelects :
    ∀ ss : List SubSelect, WritesAll (writeSelects ss) (selectFragments ss)
  | [] => fun bound => by simp [writeSelects, selectFragments, run_pure, Fragment.texts]
  | s :: ss => by
    rw [writeSelects, selectFragments]
    exact WritesAll.cons (writes_writeSelect s) (writesAll_writeSelects ss)

end

end Predicate

open Binding

lemma Tier.writesIf_write (t : Tier) : WritesIf t.write t.arm? := by
  intro bound
  have hcondition := t.condition.writesIf_write bound
  rw [write, arm?, run_bind, run_pure, hcondition]
  cases t.condition.fragment? with
  | none => simp
  | some f => simp [Fragment.text, Fragment.text_append, String.append_assoc]

lemma OrderKey.writesIf_write (k : OrderKey) : WritesIf k.write k.fragment? := by
  intro bound
  cases k with
  | column name => simp [write, fragment?, run_pure, Fragment.text]
  | tiered tiers fallback =>
    have harms := writesAll_those Tier.writesIf_write tiers bound
    rw [write, fragment?, run_bind, run_pure, harms]
    cases tiers.filterMap Tier.arm? with
    | nil => simp [Fragment.texts]
    | cons arm arms =>
      -- `simp` takes the text of the first arm apart, and so must the lemma on joined texts.
      have htext := Fragment.text_join bound.length " " (arm :: arms)
      rw [Fragment.texts] at htext
      simp [Fragment.texts, Fragment.text, Fragment.text_append, Fragment.binds_join, htext,
        String.append_assoc]

lemma Order.writesIf_write (keys : List OrderKey) : WritesIf (write keys) (fragment? keys) := by
  intro bound
  have hitems := writesAll_those OrderKey.writesIf_write keys bound
  rw [write, fragment?, run_bind, run_pure, hitems]
  cases keys.filterMap OrderKey.fragment? with
  | nil => simp [Fragment.texts]
  | cons item items =>
    have htext := Fragment.text_join bound.length ", " (item :: items)
    rw [Fragment.texts] at htext
    simp [Fragment.texts, Fragment.binds_join, htext]

end FacetSearch
