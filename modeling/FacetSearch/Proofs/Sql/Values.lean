import FacetSearch.Proofs.Sql.Fragment

/-!
# Bound values

The values that a condition or an order binds, read off from it without its SQL.
-/

namespace FacetSearch

namespace Fragment

lemma binds_join (separator : String) (fs : List Fragment) :
    binds (join separator fs) = fs.flatMap binds := by
  match fs with
  | [] => rfl
  | [f] => rw [join, List.flatMap_singleton]
  | f :: g :: fs =>
    have ih := binds_join separator (g :: fs)
    rw [join_cons_cons, binds_append, binds_sql_cons, ih]
    exact List.flatMap_cons.symm

lemma binds_combine (joiner : String) (fs : List Fragment) :
    ((combine joiner fs).getD []).binds = fs.flatMap binds := by
  match fs with
  | [] => rfl
  | [f] => rw [combine, Option.getD_some, List.flatMap_singleton]
  | f :: g :: fs =>
    have hjoin := binds_join joiner (f :: g :: fs)
    simp only [combine, Option.getD_some, List.cons_append, binds_sql_cons, binds_append, hjoin,
      binds_nil, List.append_nil]

end Fragment

namespace Predicate

mutual

/-- The values of a predicate, in order. -/
def bound : Predicate → List Bind
  | like _ patterns _ => patterns.map .text
  | anyOf _ values _ => if values.isEmpty then [] else [.textArray values]
  | idIn _ ids => [.bigintArray ids]
  | membership _ selects _ => boundInSelects selects
  | prefixMatch _ terms => if terms.isEmpty then [] else [.textArray terms]
  | and parts => boundInAll parts
  | or parts => boundInAll parts

def boundInAll : List Predicate → List Bind
  | [] => []
  | p :: ps => p.bound ++ boundInAll ps

def boundInSelect : SubSelect → List Bind
  | .whole _ => []
  | .filtered _ filter => filter.bound

def boundInSelects : List SubSelect → List Bind
  | [] => []
  | s :: ss => boundInSelect s ++ boundInSelects ss

end

lemma boundInAll_append (ps qs : List Predicate) :
    boundInAll (ps ++ qs) = boundInAll ps ++ boundInAll qs := by
  induction ps with
  | nil => rfl
  | cons p ps ih => rw [List.cons_append, boundInAll, boundInAll, ih, List.append_assoc]

mutual

/-- The SQL of a predicate binds its values. -/
lemma binds_fragment? : ∀ p : Predicate, (p.fragment?.getD []).binds = p.bound
  | like column patterns negated => by
    rw [fragment?, Fragment.binds_combine, bound, List.flatMap_map, List.map_eq_flatMap]
    rfl
  | anyOf column values negated => by
    rw [fragment?, bound]
    split <;> rfl
  | idIn column ids => by
    rw [fragment?, bound]
    rfl
  | membership column selects negated => by
    have ih := binds_selectFragments selects
    rw [fragment?, bound]
    cases selects with
    | nil => rfl
    | cons s ss =>
      simp only [List.isEmpty_cons, Bool.false_eq_true, if_false, Option.getD_some,
        List.cons_append, Fragment.binds_sql_cons, Fragment.binds_append, Fragment.binds_join, ih,
        Fragment.binds_nil, List.append_nil]
  | prefixMatch column terms => by
    rw [fragment?, bound]
    split <;> rfl
  | and parts => by rw [fragment?, Fragment.binds_combine, binds_fragments parts, bound]
  | or parts => by rw [fragment?, Fragment.binds_combine, binds_fragments parts, bound]

lemma binds_fragments : ∀ ps : List Predicate, (fragments ps).flatMap Fragment.binds = boundInAll ps
  | [] => rfl
  | p :: ps => by
    have hp := binds_fragment? p
    have hps := binds_fragments ps
    rw [fragments, boundInAll, List.flatMap_append, hps, ← hp]
    cases p.fragment? with
    | none => rfl
    | some f => rw [Option.toList_some, List.flatMap_singleton, Option.getD_some]

lemma binds_selectFragment : ∀ s : SubSelect, (selectFragment s).binds = boundInSelect s
  | .whole head => rfl
  | .filtered head filter => by
    have hfilter := binds_fragment? filter
    rw [selectFragment, boundInSelect, ← hfilter]
    cases filter.fragment? <;> rfl

lemma binds_selectFragments : ∀ ss : List SubSelect,
    (selectFragments ss).flatMap Fragment.binds = boundInSelects ss
  | [] => rfl
  | s :: ss => by
    rw [selectFragments, boundInSelects, List.flatMap_cons, binds_selectFragment s,
      binds_selectFragments ss]

end

lemma binds_whereClause (ps : List Predicate) :
    (whereClause (fragments ps)).binds = boundInAll ps := by
  have hfragments := binds_fragments ps
  rw [← hfragments]
  cases fragments ps with
  | nil => rfl
  | cons f fs => rw [whereClause, Fragment.binds_sql_cons, Fragment.binds_join]; simp

end Predicate

/-! ## Orders -/

namespace OrderKey

/-- The values of a key, in order. -/
def bound : OrderKey → List Bind
  | column _ => []
  | tiered tiers _ => tiers.flatMap (·.condition.bound)

lemma binds_arms (tiers : List Tier) :
    (tiers.filterMap Tier.arm?).flatMap Fragment.binds =
      tiers.flatMap (·.condition.bound) := by
  induction tiers with
  | nil => rfl
  | cons t tiers ih =>
    have hcondition := Predicate.binds_fragment? t.condition
    have harm : (t.arm?.getD []).binds = t.condition.bound := by
      rw [← hcondition, Tier.arm?]
      cases t.condition.fragment? with
      | none => rfl
      | some f => simp
    rw [List.flatMap_cons, ← ih, ← harm, List.filterMap_cons]
    cases t.arm? <;> rfl

lemma binds_fragment? (key : OrderKey) : (key.fragment?.getD []).binds = key.bound := by
  cases key with
  | column name => rfl
  | tiered tiers fallback =>
    rw [fragment?, bound, ← binds_arms]
    cases tiers.filterMap Tier.arm? with
    | nil => rfl
    | cons arm arms =>
      simp only [Option.getD_some, List.cons_append, Fragment.binds_sql_cons, Fragment.binds_append,
        Fragment.binds_join, Fragment.binds_nil, List.append_nil]

end OrderKey

lemma Order.binds_fragment? (keys : List OrderKey) :
    ((Order.fragment? keys).getD []).binds = keys.flatMap OrderKey.bound := by
  have hitems : (keys.filterMap OrderKey.fragment?).flatMap Fragment.binds =
      keys.flatMap OrderKey.bound := by
    induction keys with
    | nil => rfl
    | cons key keys ih =>
      have hkey := OrderKey.binds_fragment? key
      rw [List.flatMap_cons, ← ih, ← hkey, List.filterMap_cons]
      cases key.fragment? <;> rfl
  rw [Order.fragment?, ← hitems]
  cases keys.filterMap OrderKey.fragment? with
  | nil => rfl
  | cons item items => rw [Option.getD_some, Fragment.binds_join]

end FacetSearch
