import FacetSearch.Proofs.Sql.Fragment
import Mathlib.Data.List.Basic

/-!
# Shapes

What is left of conditions and orders once the values in them are taken away: column names, heads
of sub-selects, ranks, the number of patterns, and whether there are values or terms at all. The
text of a condition or an order is that of its shape, whatever its values are.
-/

namespace FacetSearch

lemma isEmpty_eq_of_eq_nil_iff {α : Type} {as bs : List α} (h : as = [] ↔ bs = []) :
    as.isEmpty = bs.isEmpty := by
  rw [Bool.eq_iff_iff, List.isEmpty_iff, List.isEmpty_iff, h]

/-- A blank in place of all values, if there are any. -/
def blanks (values : List String) : List String := if values.isEmpty then [] else [""]

@[simp] lemma isEmpty_blanks (values : List String) : (blanks values).isEmpty = values.isEmpty := by
  cases values <;> rfl

lemma blanks_eq_blanks {values values' : List String} (h : values = [] ↔ values' = []) :
    blanks values = blanks values' := by
  rw [blanks, blanks, isEmpty_eq_of_eq_nil_iff h]

namespace Piece

/-- The piece without its value. -/
def blank : Piece → Piece
  | sql s => sql s
  | value _ => value (.bigint 0)

end Piece

namespace Fragment

/-- The fragment without its values. -/
def blank (f : Fragment) : Fragment := f.map Piece.blank

@[simp] lemma blank_nil : blank [] = [] := rfl

@[simp] lemma blank_sql_cons (s : String) (f : Fragment) :
    blank (.sql s :: f) = .sql s :: blank f := rfl

@[simp] lemma blank_value_cons (b : Bind) (f : Fragment) :
    blank (.value b :: f) = .value (.bigint 0) :: blank f := rfl

@[simp] lemma blank_append (f g : Fragment) : blank (f ++ g) = blank f ++ blank g :=
  List.map_append

/-- Values leave no trace in the text but their places. -/
lemma text_blank (bound : Nat) (f : Fragment) : text bound f.blank = text bound f := by
  induction f generalizing bound with
  | nil => rfl
  | cons piece f ih =>
    cases piece with
    | sql s => rw [blank_sql_cons, text, text, ih]
    | value b => rw [blank_value_cons, text, text, ih]

lemma sql_statement_eq {f g : Fragment} (h : f.blank = g.blank) :
    f.statement.sql = g.statement.sql := by
  have htext : text 0 f.blank = text 0 g.blank := by rw [h]
  rwa [text_blank, text_blank] at htext

lemma blank_join (separator : String) (fs : List Fragment) :
    blank (join separator fs) = join separator (fs.map blank) := by
  match fs with
  | [] => rfl
  | [f] => rfl
  | f :: g :: fs =>
    have ih := blank_join separator (g :: fs)
    rw [join_cons_cons, blank_append, blank_sql_cons, ih, List.map_cons, List.map_cons,
      List.map_cons, join_cons_cons]

lemma map_blank_combine (joiner : String) (fs : List Fragment) :
    (combine joiner fs).map blank = combine joiner (fs.map blank) := by
  match fs with
  | [] => rfl
  | [f] => rfl
  | f :: g :: fs =>
    have hjoin := blank_join joiner (f :: g :: fs)
    simp only [List.map_cons] at hjoin ⊢
    simp only [combine, Option.map_some, List.cons_append, blank_sql_cons, blank_append, hjoin,
      blank_nil]

end Fragment

namespace Predicate

mutual

/-- The predicate without its values. -/
def shape : Predicate → Predicate
  | like column patterns negated => like column (patterns.map fun _ => "") negated
  | anyOf column values negated => anyOf column (blanks values) negated
  | idIn column _ => idIn column []
  | membership column selects negated => membership column (shapeOfSelects selects) negated
  | prefixMatch column terms => prefixMatch column (blanks terms)
  | and parts => and (shapeOfAll parts)
  | or parts => or (shapeOfAll parts)

def shapeOfAll : List Predicate → List Predicate
  | [] => []
  | p :: ps => p.shape :: shapeOfAll ps

def shapeOfSelect : SubSelect → SubSelect
  | .whole head => .whole head
  | .filtered head filter => .filtered head filter.shape

def shapeOfSelects : List SubSelect → List SubSelect
  | [] => []
  | s :: ss => shapeOfSelect s :: shapeOfSelects ss

end

lemma shapeOfAll_eq_map (ps : List Predicate) : shapeOfAll ps = ps.map shape := by
  induction ps with
  | nil => rfl
  | cons p ps ih => rw [shapeOfAll, ih, List.map_cons]

lemma isEmpty_shapeOfSelects (ss : List SubSelect) : (shapeOfSelects ss).isEmpty = ss.isEmpty := by
  cases ss <;> rfl

lemma blank_selectFragment_filtered (head : String) (filter : Predicate) :
    (selectFragment (.filtered head filter)).blank =
      match filter.fragment?.map Fragment.blank with
      | none => [.sql head]
      | some f => .sql (head ++ " WHERE ") :: f := by
  rw [selectFragment]
  cases filter.fragment? <;> rfl

mutual

/-- A predicate and its shape have the same SQL up to the values. -/
lemma map_blank_fragment?_shape :
    ∀ p : Predicate, p.shape.fragment?.map Fragment.blank = p.fragment?.map Fragment.blank
  | like column patterns negated => by
    rw [shape, fragment?, fragment?, Fragment.map_blank_combine, Fragment.map_blank_combine]
    simp only [List.map_map]
    rfl
  | anyOf column values negated => by
    rw [shape, fragment?, fragment?, isEmpty_blanks]
    split <;> rfl
  | idIn column ids => rfl
  | membership column selects negated => by
    have hselects := map_blank_selectFragments_shape selects
    rw [shape, fragment?, fragment?, isEmpty_shapeOfSelects]
    split
    · rfl
    · simp only [Option.map_some, List.cons_append, Fragment.blank_sql_cons, Fragment.blank_append,
        Fragment.blank_join, hselects]
  | prefixMatch column terms => by
    rw [shape, fragment?, fragment?, isEmpty_blanks]
    split <;> rfl
  | and parts => by
    rw [shape, fragment?, fragment?, Fragment.map_blank_combine, Fragment.map_blank_combine,
      map_blank_fragments_shape parts]
  | or parts => by
    rw [shape, fragment?, fragment?, Fragment.map_blank_combine, Fragment.map_blank_combine,
      map_blank_fragments_shape parts]

lemma map_blank_fragments_shape :
    ∀ ps : List Predicate,
      (fragments (shapeOfAll ps)).map Fragment.blank = (fragments ps).map Fragment.blank
  | [] => rfl
  | p :: ps => by
    rw [shapeOfAll, fragments, fragments, List.map_append, List.map_append, ← Option.toList_map,
      ← Option.toList_map, map_blank_fragment?_shape p, map_blank_fragments_shape ps]

lemma blank_selectFragment_shape :
    ∀ s : SubSelect,
      (selectFragment (shapeOfSelect s)).blank = (selectFragment s).blank
  | .whole head => rfl
  | .filtered head filter => by
    rw [shapeOfSelect, blank_selectFragment_filtered, blank_selectFragment_filtered,
      map_blank_fragment?_shape filter]

lemma map_blank_selectFragments_shape :
    ∀ ss : List SubSelect,
      (selectFragments (shapeOfSelects ss)).map Fragment.blank =
        (selectFragments ss).map Fragment.blank
  | [] => rfl
  | s :: ss => by
    rw [shapeOfSelects, selectFragments, selectFragments, List.map_cons, List.map_cons,
      blank_selectFragment_shape s, map_blank_selectFragments_shape ss]

end

end Predicate

/-- The tier without the values of its condition. -/
def Tier.shape (t : Tier) : Tier := ⟨t.condition.shape, t.rank⟩

/-- The key without the values of its conditions. -/
def OrderKey.shape : OrderKey → OrderKey
  | tiered tiers fallback => tiered (tiers.map Tier.shape) fallback
  | column name => column name

lemma filterMap_blank {α : Type} {fragment? : α → Option Fragment} {shape : α → α}
    (h : ∀ a, (fragment? (shape a)).map Fragment.blank = (fragment? a).map Fragment.blank)
    (as : List α) :
    ((as.map shape).filterMap fragment?).map Fragment.blank =
      (as.filterMap fragment?).map Fragment.blank := by
  rw [List.map_filterMap, List.map_filterMap, List.filterMap_map]
  exact List.filterMap_congr fun a _ => h a

lemma Tier.map_blank_arm? (t : Tier) :
    t.arm?.map Fragment.blank =
      (t.condition.fragment?.map Fragment.blank).map fun f =>
        .sql "WHEN " :: f ++ [.sql (" THEN " ++ toString t.rank)] := by
  rw [arm?]
  cases t.condition.fragment? with
  | none => rfl
  | some f => simp

lemma Tier.map_blank_arm?_shape (t : Tier) :
    t.shape.arm?.map Fragment.blank = t.arm?.map Fragment.blank := by
  rw [map_blank_arm?, map_blank_arm?, shape, t.condition.map_blank_fragment?_shape]

lemma OrderKey.map_blank_fragment?_shape (k : OrderKey) :
    k.shape.fragment?.map Fragment.blank = k.fragment?.map Fragment.blank := by
  cases k with
  | column name => rfl
  | tiered tiers fallback =>
    have harms := filterMap_blank Tier.map_blank_arm?_shape tiers
    rw [shape, fragment?, fragment?]
    cases hf : tiers.filterMap Tier.arm? <;>
      cases hg : (tiers.map Tier.shape).filterMap Tier.arm? <;>
      simp_all [Fragment.blank_join]

lemma Order.map_blank_fragment?_shape (keys : List OrderKey) :
    (fragment? (keys.map OrderKey.shape)).map Fragment.blank =
      (fragment? keys).map Fragment.blank := by
  have hitems := filterMap_blank OrderKey.map_blank_fragment?_shape keys
  rw [fragment?, fragment?]
  cases hf : keys.filterMap OrderKey.fragment? <;>
    cases hg : (keys.map OrderKey.shape).filterMap OrderKey.fragment? <;>
    simp_all [Fragment.blank_join]

end FacetSearch
