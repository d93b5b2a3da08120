import FacetSearch.Proofs.Sql.OnePass

/-!
# Conditions and orders at any place of a statement

What is bound before a condition or an order shows in its text only in the numbers of its places,
also where these get longer. The values are the same everywhere, and where nothing is written
nothing is bound.
-/

namespace FacetSearch

namespace Token

def renumber (g : Nat → Nat) : Token → Token
  | char c => char c
  | place n => place (g n)

/-- The characters that are read as a token. -/
def chars : Token → List Char
  | char c => [c]
  | place n => ("$" ++ toString n).toList

end Token

/-- The text with its places numbered anew. -/
def renumbered (g : Nat → Nat) (s : String) : String :=
  String.ofList ((Token.read none s.toList).flatMap fun t => (t.renumber g).chars)

namespace Fragment

lemma tokens_eq_map_renumber (a b : Nat) (f : Fragment) :
    tokens b f = (tokens a f).map (Token.renumber fun k => k - a + b) := by
  -- The values of the fragment so far come between the number of a place and `a`.
  have hshift (n : Nat) : tokens (b + n) f =
      (tokens (a + n) f).map (Token.renumber fun k => k - a + b) := by
    induction f generalizing n with
    | nil => rfl
    | cons piece f ih =>
      cases piece with
      | sql s =>
        have hchars : (s.toList.map Token.char).map (Token.renumber fun k => k - a + b) =
            s.toList.map Token.char := by
          rw [List.map_map]
          rfl
        rw [tokens, tokens, List.map_append, hchars, ih]
      | value v =>
        have hnumber : a + n + 1 - a + b = b + n + 1 := by omega
        have hrest := ih (n + 1)
        rw [← Nat.add_assoc, ← Nat.add_assoc] at hrest
        rw [tokens, tokens, List.map_cons, Token.renumber, hnumber, hrest]
  exact hshift 0

lemma flatMap_chars_tokens (bound : Nat) (f : Fragment) :
    (tokens bound f).flatMap Token.chars = (text bound f).toList := by
  induction f generalizing bound with
  | nil => simp [tokens, text]
  | cons piece f ih =>
    cases piece with
    | sql s =>
      have hchars : (s.toList.map Token.char).flatMap Token.chars = s.toList := by
        simp [List.flatMap_map, Token.chars]
      rw [tokens, text, List.flatMap_append, hchars, ih, String.toList_append]
    | value v =>
      rw [tokens, text, List.flatMap_cons, ih, Token.chars]
      exact (String.toList_append ..).symm

/-- The text of a closed fragment after other values is the same text with its places numbered on
from there. -/
lemma Closed.renumbered_text {f : Fragment} (h : Closed f) (a b : Nat) :
    renumbered (fun k => k - a + b) (text a f) = text b f := by
  have hread := read_text h a []
  rw [List.append_nil, Token.read, List.append_nil] at hread
  have htokens := tokens_eq_map_renumber a b f
  rw [renumbered, hread, ← List.flatMap_map, ← htokens, flatMap_chars_tokens, String.ofList_toList]

end Fragment

namespace Binding

/-- What is bound before makes no difference but in the numbers of the places. -/
structure Relocates (w : Binding (Option String)) : Prop where
  /-- The values are bound after those bound before. -/
  values : ∃ added, ∀ bound, (w bound).2 = bound ++ added
  /-- There is a text after some values if there is one after others, and it differs in the numbers
  of its places only. -/
  text : ∀ a b : List Bind,
    (w b).1 = (w a).1.map (renumbered fun k => k - a.length + b.length)
  /-- Without a text nothing is bound. -/
  silent : ∀ bound, (w bound).1 = none → (w bound).2 = bound

lemma WritesIf.relocates {w : Binding (Option String)} {f? : Option Fragment} (h : WritesIf w f?)
    (hclosed : ∀ f ∈ f?, Fragment.Closed f) : Relocates w where
  values := ⟨(f?.getD []).binds, fun bound => by rw [h bound]⟩
  text a b := by
    rw [h a, h b]
    cases f? with
    | none => rfl
    | some f =>
      have htext := (hclosed f rfl).renumbered_text a.length b.length
      rw [Option.map_some, Option.map_some, Option.map_some, htext]
  silent bound hnone := by
    rw [h bound] at hnone ⊢
    rw [Option.map_eq_none_iff.mp hnone, Option.getD_none, Fragment.binds_nil, List.append_nil]

/-- The texts of some items are those of the items that have one, in order, each as it is written
after the values of the items before it. -/
lemma exists_items {α : Type} {w : α → Binding (Option String)} {f? : α → Option Fragment}
    (h : ∀ a, WritesIf (w a) (f? a)) (as : List α) (bound : List Bind) :
    ∃ items : List (α × String),
      items.map Prod.fst = as.filter (fun a => (f? a).isSome) ∧
      items.map Prod.snd = (those w as bound).1 ∧
      ∀ item ∈ items, ∃ earlier, (w item.1 (bound ++ earlier)).1 = some item.2 := by
  induction as generalizing bound with
  | nil => exact ⟨[], rfl, rfl, fun item hitem => nomatch hitem⟩
  | cons a as ih =>
    obtain ⟨items, hitems, htexts, hwritten⟩ := ih (bound ++ ((f? a).getD []).binds)
    rw [those, run_bind, run_bind, run_pure, h a bound]
    cases hf : f? a with
    | none =>
      rw [hf, Option.getD_none, Fragment.binds_nil, List.append_nil] at htexts hwritten
      refine ⟨items, ?_, ?_, hwritten⟩
      · rw [hitems, List.filter_cons_of_neg (by simp [hf])]
      · simpa using htexts
    | some f =>
      rw [hf, Option.getD_some] at htexts hwritten
      refine ⟨(a, f.text bound.length) :: items, ?_, ?_, ?_⟩
      · rw [List.map_cons, hitems, List.filter_cons_of_pos (by simp [hf])]
      · simpa using htexts
      · intro item hitem
        rcases List.mem_cons.mp hitem with rfl | hitem
        · refine ⟨[], ?_⟩
          rw [List.append_nil, h a bound, hf, Option.map_some]
        · obtain ⟨earlier, hearlier⟩ := hwritten item hitem
          exact ⟨f.binds ++ earlier, by rw [← List.append_assoc, hearlier]⟩

end Binding

/-! ## What is left out -/

mutual

/-- A predicate without values, or with such parts only. -/
def Predicate.IsHollow : Predicate → Prop
  | .like _ patterns _ => patterns = []
  | .anyOf _ values _ => values = []
  | .idIn _ _ => False
  | .membership _ selects _ => selects = []
  | .prefixMatch _ _ => False
  | .and parts => Predicate.AllHollow parts
  | .or parts => Predicate.AllHollow parts

def Predicate.AllHollow : List Predicate → Prop
  | [] => True
  | p :: ps => p.IsHollow ∧ Predicate.AllHollow ps

end

/-- A key whose tiers all have hollow conditions. -/
def OrderKey.IsHollow : OrderKey → Prop
  | .column _ => False
  | .tiered tiers _ => ∀ t ∈ tiers, t.condition.IsHollow

lemma Fragment.combine_eq_none_iff (joiner : String) (fs : List Fragment) :
    Fragment.combine joiner fs = none ↔ fs = [] := by
  rw [← Option.isNone_iff_eq_none, ← Option.not_isSome, Fragment.isSome_combine]
  cases fs <;> simp

namespace Predicate

mutual

lemma fragment?_eq_none_iff : ∀ p : Predicate, p.fragment? = none ↔ p.IsHollow
  | like column patterns negated => by
    rw [fragment?, IsHollow, Fragment.combine_eq_none_iff, List.map_eq_nil_iff]
  | anyOf column values negated => by simp [fragment?, IsHollow]
  | idIn column ids => by simp [fragment?, IsHollow]
  | membership column selects negated => by simp [fragment?, IsHollow]
  | prefixMatch column terms => by simp [fragment?, IsHollow]
  | and parts => by
    rw [fragment?, IsHollow, Fragment.combine_eq_none_iff, fragments_eq_nil_iff parts]
  | or parts => by
    rw [fragment?, IsHollow, Fragment.combine_eq_none_iff, fragments_eq_nil_iff parts]

lemma fragments_eq_nil_iff : ∀ ps : List Predicate, fragments ps = [] ↔ AllHollow ps
  | [] => by simp [fragments, AllHollow]
  | p :: ps => by
    rw [fragments, AllHollow, List.append_eq_nil_iff, Option.toList_eq_nil_iff,
      fragment?_eq_none_iff p, fragments_eq_nil_iff ps]

end

end Predicate

lemma Tier.arm?_eq_none_iff (t : Tier) : t.arm? = none ↔ t.condition.IsHollow := by
  rw [arm?, Option.map_eq_none_iff, Predicate.fragment?_eq_none_iff]

lemma OrderKey.fragment?_eq_none_iff (k : OrderKey) : k.fragment? = none ↔ k.IsHollow := by
  cases k with
  | column name => simp [fragment?, IsHollow]
  | tiered tiers fallback =>
    have harms : tiers.filterMap Tier.arm? = [] ↔ ∀ t ∈ tiers, t.condition.IsHollow := by
      simp only [List.filterMap_eq_nil_iff, Tier.arm?_eq_none_iff]
    rw [fragment?, IsHollow, ← harms]
    split <;> simp_all

lemma Order.fragment?_eq_none_iff (keys : List OrderKey) :
    fragment? keys = none ↔ ∀ k ∈ keys, k.IsHollow := by
  have hitems : keys.filterMap OrderKey.fragment? = [] ↔ ∀ k ∈ keys, k.IsHollow := by
    simp only [List.filterMap_eq_nil_iff, OrderKey.fragment?_eq_none_iff]
  rw [fragment?, ← hitems]
  split <;> simp_all

/-! ## What an order consists of -/

/-- The text is that of a key that is written after the given values. The arms of a `CASE` are for
the tiers whose condition has a text, in order, and there is at least one. -/
def OrderKey.IsWrittenAs (bound : List Bind) : OrderKey → String → Prop
  | .column name, s => s = name
  | .tiered tiers fallback, s => ∃ arms : List (Tier × String), arms ≠ [] ∧
      arms.map Prod.fst = tiers.filter (fun t => (t.condition.write bound).1.isSome) ∧
      (∀ arm ∈ arms, ∃ earlier condition,
        (arm.1.condition.write (bound ++ earlier)).1 = some condition ∧
        arm.2 = "WHEN " ++ condition ++ " THEN " ++ toString arm.1.rank) ∧
      s = "CASE " ++ " ".intercalate (arms.map Prod.snd) ++ " ELSE " ++ toString fallback ++ " END"

open Binding

lemma Binding.WritesIf.isSome {w : Binding (Option String)} {f? : Option Fragment}
    (h : WritesIf w f?) (bound : List Bind) : (w bound).1.isSome = f?.isSome := by
  rw [h bound, Option.isSome_map]

lemma Tier.exists_condition {t : Tier} {bound : List Bind} {arm : String}
    (h : (t.write bound).1 = some arm) : ∃ condition,
      (t.condition.write bound).1 = some condition ∧
      arm = "WHEN " ++ condition ++ " THEN " ++ toString t.rank := by
  rw [write, run_bind, run_pure] at h
  obtain ⟨condition, hcondition, harm⟩ := Option.map_eq_some_iff.mp h
  exact ⟨condition, hcondition, harm.symm⟩

lemma OrderKey.isWrittenAs_write {k : OrderKey} {bound : List Bind} {s : String}
    (h : (k.write bound).1 = some s) : k.IsWrittenAs bound s := by
  cases k with
  | column name =>
    rw [write, run_pure] at h
    exact (Option.some.inj h).symm
  | tiered tiers fallback =>
    obtain ⟨arms, htiers, htexts, hwritten⟩ := exists_items Tier.writesIf_write tiers bound
    have hsome (t : Tier) : t.arm?.isSome = (t.condition.write bound).1.isSome := by
      rw [t.condition.writesIf_write.isSome, Tier.arm?, Option.isSome_map]
    rw [write, run_bind, run_pure, ← htexts] at h
    refine ⟨arms, ?_, ?_, ?_, ?_⟩
    · rintro rfl
      cases h
    · simp only [htiers, hsome]
    · intro arm harm
      obtain ⟨earlier, hearlier⟩ := hwritten arm harm
      obtain ⟨condition, hcondition, htext⟩ := Tier.exists_condition hearlier
      exact ⟨earlier, condition, hcondition, htext⟩
    · cases arms with
      | nil => cases h
      | cons arm arms => exact (Option.some.inj h).symm

/-- The text of an order is made of those of the keys that have one. -/
lemma Order.exists_keys {keys : List OrderKey} {bound : List Bind} {s : String}
    (h : (write keys bound).1 = some s) : ∃ items : List (OrderKey × String), items ≠ [] ∧
      items.map Prod.fst = keys.filter (fun k => (k.write bound).1.isSome) ∧
      (∀ item ∈ items, ∃ earlier, item.1.IsWrittenAs (bound ++ earlier) item.2) ∧
      s = ", ".intercalate (items.map Prod.snd) := by
  obtain ⟨items, hkeys, htexts, hwritten⟩ := exists_items OrderKey.writesIf_write keys bound
  have hsome (k : OrderKey) : k.fragment?.isSome = (k.write bound).1.isSome := by
    rw [k.writesIf_write.isSome]
  rw [write, run_bind, run_pure, ← htexts] at h
  refine ⟨items, ?_, ?_, ?_, ?_⟩
  · rintro rfl
    cases h
  · simp only [hkeys, hsome]
  · intro item hitem
    obtain ⟨earlier, hearlier⟩ := hwritten item hitem
    exact ⟨earlier, OrderKey.isWrittenAs_write hearlier⟩
  · cases items with
    | nil => cases h
    | cons item items => exact (Option.some.inj h).symm

/-- Conditions and orders are written in one pass, each value being bound as it is come to, with the
text and the values of their fragments. What was bound before is kept and only moves the numbers of
the places. Nothing is written for what is hollow, and then nothing is bound. An order consists of
its keys with a text, where a `CASE` has an arm for each tier whose condition has a text. -/
theorem conditions_and_orders_relocate :
    (∀ p : Predicate,
      (∀ bound, p.write bound =
        (p.fragment?.map (Fragment.text bound.length), bound ++ (p.fragment?.getD []).binds)) ∧
      (∀ bound, (p.write bound).1 = none ↔ p.IsHollow) ∧
      (DollarFree p.names → p.write.Relocates)) ∧
    ∀ keys : List OrderKey,
      (∀ bound, Order.write keys bound =
        ((Order.fragment? keys).map (Fragment.text bound.length),
          bound ++ ((Order.fragment? keys).getD []).binds)) ∧
      (∀ bound, (Order.write keys bound).1 = none ↔ ∀ k ∈ keys, k.IsHollow) ∧
      (DollarFree (keys.flatMap OrderKey.names) → (Order.write keys).Relocates) ∧
      ∀ bound text, (Order.write keys bound).1 = some text →
        ∃ items : List (OrderKey × String), items ≠ [] ∧
          items.map Prod.fst = keys.filter (fun k => (k.write bound).1.isSome) ∧
          (∀ item ∈ items, ∃ earlier, item.1.IsWrittenAs (bound ++ earlier) item.2) ∧
          text = ", ".intercalate (items.map Prod.snd) := by
  refine ⟨fun p => ⟨p.writesIf_write, fun bound => ?_, fun hnames => ?_⟩,
    fun keys => ⟨Order.writesIf_write keys, fun bound => ?_, fun hnames => ?_, ?_⟩⟩
  · rw [p.writesIf_write bound, Option.map_eq_none_iff, p.fragment?_eq_none_iff]
  · exact p.writesIf_write.relocates (p.closed_fragment? hnames)
  · rw [Order.writesIf_write keys bound, Option.map_eq_none_iff, Order.fragment?_eq_none_iff]
  · exact (Order.writesIf_write keys).relocates (Order.closed_fragment? hnames)
  · exact fun bound text h => Order.exists_keys h

/-- Nine values before a condition and an order move their places to two digits. -/
theorem conditions_and_orders_relocate_widening :
    let p : Predicate := .and [.like "d.name" ["%a%", "%b%"] true, .or [], .idIn "d.id" [1, 2]]
    let keys : List OrderKey := [.tiered [⟨.like "d.urn" [] false, 1⟩, ⟨p, 2⟩] 9, .column "d.id"]
    let nine := List.replicate 9 (Bind.bigint 0)
    DollarFree p.names ∧ DollarFree (keys.flatMap OrderKey.names) ∧
      (p.write nine).1 = (p.write []).1.map (renumbered fun k => k - 0 + 9) ∧
      (Order.write keys nine).1 = (Order.write keys []).1.map (renumbered fun k => k - 0 + 9) ∧
      ∃ items : List (OrderKey × String), items.length = 2 ∧
        ∀ item ∈ items, ∃ earlier, item.1.IsWrittenAs (nine ++ earlier) item.2 := by
  intro p keys nine
  have hp : DollarFree p.names := by
    simp [p, DollarFree, Predicate.names, Predicate.namesOfAll]
  have hkeys : DollarFree (keys.flatMap OrderKey.names) := by
    simp [keys, p, DollarFree, Predicate.names, Predicate.namesOfAll, OrderKey.names]
  obtain ⟨-, -, hpredicate⟩ := conditions_and_orders_relocate.1 p
  obtain ⟨-, -, horder, hitems⟩ := conditions_and_orders_relocate.2 keys
  obtain ⟨items, -, hfirst, hwritten, -⟩ := hitems nine _ rfl
  have hlength : items.length = 2 := by
    rw [← List.length_map Prod.fst, hfirst]
    rfl
  exact ⟨hp, hkeys, (hpredicate hp).text [] nine, (horder hkeys).text [] nine, items, hlength,
    hwritten⟩

end FacetSearch
