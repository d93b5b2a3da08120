import FacetSearch.Proofs.Settings.Fields
import FacetSearch.Proofs.Settings.Merging

/-!
# Where settings stand

A setting stands under its name in its group. A value that is put in there sets it, and one that is
put in elsewhere leaves it as it is.
-/

namespace FacetSearch

namespace Settings

/-- The value under a key, or null. -/
def under (key : String) (tree : Json) : Json := (tree.member? key).getD .null

lemma under_assignAt (value : Json) (key k : String) (path : KeyPath) (tree : Json) :
    under k (assignAt value (.member key :: path) tree) =
      if k = Text.lowerCase key then mergedAt value path (tree.member? k) else under k tree := by
  rw [under, member?_assignAt]
  split <;> rfl

namespace Leaf

variable {p q : Leaf} {tree value : Json}

/-! ## Places in trees -/

/-- The key of a setting, as a file or the environment may spell it. -/
def key (p : Leaf) : String := p.group ++ "." ++ p.name

lemma spelling (hp : p ∈ leaves) :
    KeyPath.ofText p.key = [.member p.group, .member p.name] ∧
      KeyPath.ofText p.group = [.member p.group] ∧
      Text.lowerCase p.group = p.group ∧ Text.lowerCase p.name = p.name := by
  revert p
  decide +kernel

lemma ofText_key (hp : p ∈ leaves) : KeyPath.ofText p.key = [.member p.group, .member p.name] :=
  (spelling hp).1

lemma ofText_group (hp : p ∈ leaves) : KeyPath.ofText p.group = [.member p.group] :=
  (spelling hp).2.1

lemma lowerCase_group (hp : p ∈ leaves) : Text.lowerCase p.group = p.group := (spelling hp).2.2.1

lemma lowerCase_name (hp : p ∈ leaves) : Text.lowerCase p.name = p.name := (spelling hp).2.2.2

lemma key_injOn (hp : p ∈ leaves) (hq : q ∈ leaves) (h : p.key = q.key) : p = q := by
  have hpath := ofText_key hp
  rw [h, ofText_key hq] at hpath
  cases p
  cases q
  cases hpath
  rfl

/-- What stands in a tree at the place of a setting. -/
def memberIn? (p : Leaf) (tree : Json) : Option Json := (under p.group tree).member? p.name

lemma under_assignAt_key (hq : q ∈ leaves) (k : String) :
    under k (assignAt value (KeyPath.ofText q.key) tree) =
      if k = q.group then assignAt value [.member q.name] (under k tree) else under k tree := by
  rw [ofText_key hq, under_assignAt, lowerCase_group hq]
  rfl

lemma memberIn?_assignAt_self (hp : p ∈ leaves) (hvalue : ∀ members, value ≠ .object members) :
    p.memberIn? (assignAt value (KeyPath.ofText p.key) tree) = some value := by
  rw [memberIn?, under_assignAt_key hp, if_pos rfl, member?_assignAt, lowerCase_name hp, if_pos rfl]
  cases value with
  | object members => exact absurd rfl (hvalue members)
  | _ => rfl

/-- A path leads into another group than that of a setting, or to another member of its group. -/
def IsAvoidedBy (p : Leaf) : KeyPath → Prop
  | .member group :: .member name :: _ =>
    Text.lowerCase group = p.group → Text.lowerCase name ≠ p.name
  | .member group :: _ => Text.lowerCase group ≠ p.group
  | _ => False

instance (p : Leaf) : (path : KeyPath) → Decidable (p.IsAvoidedBy path)
  | .member group :: .member name :: _ =>
    inferInstanceAs (Decidable (Text.lowerCase group = p.group → Text.lowerCase name ≠ p.name))
  | [.member group] | .member group :: .element _ :: _ =>
    inferInstanceAs (Decidable (Text.lowerCase group ≠ p.group))
  | [] | .element _ :: _ => inferInstanceAs (Decidable False)

lemma isAvoidedBy_ofText_key (hq : q ∈ leaves) (hne : p ≠ q) :
    p.IsAvoidedBy (KeyPath.ofText q.key) := by
  rw [ofText_key hq]
  intro hgroup hname
  rw [lowerCase_group hq] at hgroup
  rw [lowerCase_name hq] at hname
  exact hne (congrArg₂ Leaf.mk hgroup hname).symm

/-- A value that is put in elsewhere leaves the setting as it is. -/
lemma memberIn?_assignAt_of_isAvoidedBy {path : KeyPath} (h : p.IsAvoidedBy path) :
    p.memberIn? (assignAt value path tree) = p.memberIn? tree := by
  match path, h with
  | .member group :: .member name :: path, h =>
    rw [memberIn?, under_assignAt, memberIn?]
    split
    next hgroup =>
      rw [mergedAt, member?_assignAt, if_neg (Ne.symm (h hgroup.symm)), under]
      exact List.cons_ne_nil _ _
    next => rfl
  | [.member group], h => rw [memberIn?, under_assignAt, if_neg (Ne.symm h), memberIn?]
  | .member group :: .element index :: path, h =>
    rw [memberIn?, under_assignAt, if_neg (Ne.symm h), memberIn?]

lemma key_ne_of_isAvoidedBy (hp : p ∈ leaves) {key : String}
    (h : p.IsAvoidedBy (KeyPath.ofText key)) : p.key ≠ key := by
  rintro rfl
  rw [ofText_key hp] at h
  exact h (lowerCase_group hp) (lowerCase_name hp)

/-! ## Layers over trees -/

/-- Each entry of a layer sets the setting as a whole or is for another place. -/
def IsWholeIn (p : Leaf) (layer : List (String × Json)) : Prop :=
  ∀ entry ∈ layer, entry.1 = p.key ∧ (∀ members, entry.2 ≠ .object members) ∨
    p.IsAvoidedBy (KeyPath.ofText entry.1)

/-- The last value that a layer has for a setting counts, or else what stood there before. -/
lemma memberIn?_overlay (hp : p ∈ leaves) {layer : List (String × Json)} (h : p.IsWholeIn layer)
    (tree : Json) :
    p.memberIn? (overlay layer tree) = (layer.reverse.lookup p.key).or (p.memberIn? tree) := by
  induction layer generalizing tree with
  | nil => rfl
  | cons entry layer ih =>
    obtain ⟨key, value⟩ := entry
    obtain ⟨hentry, hrest⟩ := List.forall_mem_cons.mp h
    have hstep : p.memberIn? (assignAt value (KeyPath.ofText key) tree) =
        ([(key, value)].lookup p.key).or (p.memberIn? tree) := by
      rcases hentry with ⟨rfl, hvalue⟩ | havoids
      · rw [List.lookup_cons_self, memberIn?_assignAt_self hp hvalue, Option.some_or]
      · rw [memberIn?_assignAt_of_isAvoidedBy havoids, List.lookup_cons,
          beq_false_of_ne (key_ne_of_isAvoidedBy hp havoids)]
        rfl
    rw [overlay_cons, ih hrest, List.reverse_cons, List.lookup_append, Option.or_assoc, hstep]

lemma lookup_reverse_eq_none_iff {key : String} {layer : List (String × Json)} :
    layer.reverse.lookup key = none ↔ key ∉ layer.map Prod.fst := by
  simp only [List.lookup_eq_none_iff, List.mem_reverse, bne_iff_ne, List.mem_map, not_exists,
    not_and]
  exact forall₂_congr fun _ _ => ne_comm

lemma exists_lookup_reverse {key : String} {layer : List (String × Json)}
    (h : key ∈ layer.map Prod.fst) :
    ∃ value, layer.reverse.lookup key = some value ∧ (key, value) ∈ layer := by
  cases hvalue : layer.reverse.lookup key with
  | none => exact absurd h (lookup_reverse_eq_none_iff.mp hvalue)
  | some value =>
    obtain ⟨after, before, hentries, -⟩ := List.lookup_eq_some_iff.mp hvalue
    refine ⟨value, rfl, ?_⟩
    rw [← List.mem_reverse, hentries]
    exact List.mem_append_right after List.mem_cons_self

/-! ## What is given for a setting -/

variable {members : List (String × Json)}

lemma memberIn?_eq_givenIn? (h : ∀ items, members.lookup p.group ≠ some (.array items)) :
    p.memberIn? (.object members) = p.givenIn? .lenient (.object members) := by
  rw [memberIn?, under, Json.member?]
  change _ = (members.lookup p.group).bind _
  cases hgroup : members.lookup p.group with
  | none => rfl
  | some group =>
    cases group with
    | array items => exact absurd hgroup (h items)
    | _ => rfl

lemma memberIn?_eq_none (h : p.givenIn? .lenient (.object members) = none) :
    p.memberIn? (.object members) = none := by
  by_cases harray : ∃ items, members.lookup p.group = some (.array items)
  · obtain ⟨items, hitems⟩ := harray
    rw [memberIn?, under, Json.member?, hitems]
    rfl
  · rw [memberIn?_eq_givenIn? fun items hitems => harray ⟨items, hitems⟩, h]

lemma givenIn?_of_memberIn? {members : List (String × Json)}
    (h : p.memberIn? (.object members) = some value) :
    p.givenIn? .lenient (.object members) = some value := by
  rw [← memberIn?_eq_givenIn?, h]
  intro items hitems
  rw [memberIn?, under, Json.member?, hitems] at h
  cases h

end Leaf

/-! ## The layers of a file and of the environment -/

/-- The tree that a file alone gives. -/
def fileTree? (file : Option String) : Option Json := (layerOf? file).map (overlay · (.object []))

lemma load?_eq (file : Option String) (environment : List (String × String)) :
    load? file environment = (fileTree? file).bind fun tree =>
      read? .lenient (overlay (environmentLayer environment) tree) := by
  simp only [load?, fileTree?, Option.bind_map, Option.bind_eq_bind, Function.comp_def]

lemma exists_fileTree?_eq_object {file : Option String} {tree : Json}
    (h : fileTree? file = some tree) : ∃ members, tree = .object members := by
  obtain ⟨layer, -, rfl⟩ := Option.map_eq_some_iff.mp h
  exact exists_overlay_eq_object layer []

lemma variableValue_ne_object (key text : String) (members : List (String × Json)) :
    variableValue key text ≠ .object members := by
  rw [variableValue]
  repeat' split
  all_goals exact Json.noConfusion

/-- A variable of the environment sets a setting. -/
def Leaf.IsSetBy (p : Leaf) (environment : List (String × String)) : Prop :=
  ∃ entry ∈ environment, variableKey? entry.1 = some p.key

instance (p : Leaf) (environment : List (String × String)) : Decidable (p.IsSetBy environment) :=
  inferInstanceAs (Decidable (∃ entry ∈ environment, variableKey? entry.1 = some p.key))

variable {environment : List (String × String)} {p : Leaf}

lemma Leaf.isSetBy_iff :
    p.IsSetBy environment ↔ p.key ∈ (environmentLayer environment).map Prod.fst := by
  constructor
  · rintro ⟨⟨name, text⟩, hmem, hkey⟩
    refine List.mem_map.mpr ⟨(p.key, variableValue p.key text), ?_, rfl⟩
    exact List.mem_filterMap.mpr ⟨(name, text), hmem, by simp only [hkey, Option.map_some]⟩
  · intro hmem
    obtain ⟨entry, hentry, heq⟩ := List.mem_map.mp hmem
    obtain ⟨⟨name, text⟩, hmem, hentry⟩ := List.mem_filterMap.mp hentry
    obtain ⟨key, hkey, rfl⟩ := Option.map_eq_some_iff.mp hentry
    exact ⟨(name, text), hmem, heq ▸ hkey⟩

end Settings

end FacetSearch
