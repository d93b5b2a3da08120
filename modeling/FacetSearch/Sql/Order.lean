import FacetSearch.Sql.Predicate

/-!
# Orders

An order is a list of keys, the most significant first, each sorted upwards. A tiered key is
a `CASE` whose conditions are predicates; only its ranks are written into the SQL text.
-/

namespace FacetSearch

/-- Rows that fulfil the condition have this rank. -/
structure Tier where
  condition : Predicate
  rank : Int

inductive OrderKey where
  /-- The rank of the first tier whose condition holds, else the fallback. -/
  | tiered (tiers : List Tier) (fallback : Int)
  | column (name : String)

/-- The arm of a `CASE` for a tier, unless its condition constrains nothing. -/
def Tier.arm? (t : Tier) : Option Fragment :=
  t.condition.fragment?.map fun f => .sql "WHEN " :: f ++ [.sql (" THEN " ++ toString t.rank)]

/-- The SQL of a key. A tiered key without arms orders nothing. -/
def OrderKey.fragment? : OrderKey → Option Fragment
  | column name => some [.sql name]
  | tiered tiers fallback =>
    match tiers.filterMap Tier.arm? with
    | [] => none
    | arms =>
      some (.sql "CASE " :: Fragment.join " " arms ++
        [.sql (" ELSE " ++ toString fallback ++ " END")])

namespace Order

/-- The SQL of an order, unless it orders nothing. -/
def fragment? (keys : List OrderKey) : Option Fragment :=
  match keys.filterMap OrderKey.fragment? with
  | [] => none
  | items => some (Fragment.join ", " items)

def columns (names : List String) : List OrderKey := names.map .column

end Order

end FacetSearch
