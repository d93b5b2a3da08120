import FacetSearch.Proofs.Json.Keys
import FacetSearch.Proofs.Settings.Reading

/-!
# The order in which a file is merged

The entries of a file, and those of an object in it, are merged in an order of which nothing is
known. If the keys for settings are spelled as the settings are, no two of them are for one place,
and the order does not matter.
-/

namespace FacetSearch

namespace Settings

/-! ## Values in another order -/

mutual

lemma Reorders.refl : (v : Json) → Reorders v v
  | .object members => ⟨members, rfl, MembersReorder.refl members⟩
  | .null | .bool _ | .number _ | .string _ | .array _ => rfl

lemma MembersReorder.refl : (members : List (String × Json)) → MembersReorder members members
  | [] => rfl
  | (_, value) :: members => ⟨[], value, members, rfl, .refl value, .refl members⟩

end

namespace MembersReorder

variable {members members' : List (String × Json)} (h : MembersReorder members members')
include h

lemma keys_perm : (members'.map Prod.fst).Perm (members.map Prod.fst) := by
  induction members generalizing members' with
  | nil =>
    obtain rfl := h
    exact .nil
  | cons member members ih =>
    obtain ⟨before, value', after, rfl, -, hrest⟩ := h
    have hkeys := ih hrest
    rw [List.map_append] at hkeys
    rw [List.map_append, List.map_cons, List.map_cons]
    exact List.perm_middle.trans (hkeys.cons member.1)

/-- Of distinct keys each has the same value as before, with its members in another order. -/
lemma rel_lookup (hnodup : (members.map Prod.fst).Nodup) (key : String) :
    Option.Rel Reorders (members.lookup key) (members'.lookup key) := by
  induction members generalizing members' with
  | nil =>
    obtain rfl := h
    exact .none
  | cons member members ih =>
    obtain ⟨first, value⟩ := member
    obtain ⟨before, value', after, rfl, hvalue, hrest⟩ := h
    obtain ⟨hnew, hnodup⟩ := List.nodup_cons.mp hnodup
    have hlookup := ih hrest hnodup
    rw [List.lookup_append] at hlookup
    rw [List.lookup_cons, List.lookup_append, List.lookup_cons]
    by_cases heq : key = first
    · obtain rfl := heq
      have hbefore : before.lookup key = none := by
        rw [List.lookup_eq_none_iff]
        intro member hmem
        refine bne_iff_ne.mpr fun heq => hnew ?_
        rw [← (keys_perm hrest).mem_iff, heq]
        exact List.mem_map.mpr ⟨member, List.mem_append_left after hmem, rfl⟩
      rw [hbefore, beq_self_eq_true]
      exact .some hvalue
    · rw [beq_false_of_ne heq]
      exact hlookup

end MembersReorder

mutual

lemma Reorders.hasDistinctKeys : {v v' : Json} → Reorders v v' → v.HasDistinctKeys →
    v'.HasDistinctKeys
  | .object members, _, ⟨members', rfl, h⟩, hv => by
    rw [Json.hasDistinctKeys_object_iff] at hv ⊢
    exact ⟨h.keys_perm.nodup_iff.mpr hv.1, h.hasDistinctKeys hv.2⟩
  | .null, _, rfl, hv | .bool _, _, rfl, hv | .number _, _, rfl, hv | .string _, _, rfl, hv
  | .array _, _, rfl, hv => hv

lemma MembersReorder.hasDistinctKeys : {members members' : List (String × Json)} →
    MembersReorder members members' → (∀ m ∈ members, m.2.HasDistinctKeys) →
    ∀ m ∈ members', m.2.HasDistinctKeys
  | [], _, rfl, h => h
  | (key, value) :: members, _, ⟨before, value', after, rfl, hvalue, hrest⟩, h => by
    have hvalue' : value'.HasDistinctKeys := hvalue.hasDistinctKeys (h _ List.mem_cons_self)
    have hrest' : ∀ m ∈ before ++ after, m.2.HasDistinctKeys :=
      hrest.hasDistinctKeys fun m hm => h m (List.mem_cons_of_mem _ hm)
    intro m hm
    rw [List.mem_append, List.mem_cons, or_left_comm, ← List.mem_append] at hm
    rcases hm with rfl | hm
    · exact hvalue'
    · exact hrest' m hm

end

namespace Reorders

variable {v v' : Json} (h : Reorders v v')
include h

lemma bare_eq : bare v = bare v' := by
  cases v with
  | object members =>
    obtain ⟨members', rfl, -⟩ := h
    rfl
  | _ =>
    obtain rfl := h
    rfl

lemma keys_perm : ((membersOf v').map Prod.fst).Perm ((membersOf v).map Prod.fst) := by
  cases v with
  | object members =>
    obtain ⟨members', rfl, hmembers⟩ := h
    exact hmembers.keys_perm
  | _ =>
    obtain rfl := h
    exact .nil

lemma rel_member? (hv : v.HasDistinctKeys) (key : String) :
    Option.Rel Reorders (v.member? key) (v'.member? key) := by
  cases v with
  | object members =>
    obtain ⟨members', rfl, hmembers⟩ := h
    exact hmembers.rel_lookup hv.1 key
  | _ =>
    obtain rfl := h
    exact .none

end Reorders

lemma map_bare_eq_of_rel {v v' : Option Json} (h : Option.Rel Reorders v v') :
    v'.map bare = v.map bare := by
  cases h with
  | none => rfl
  | some h => exact congrArg some h.bare_eq.symm

lemma reorders_getD {v v' : Option Json} (h : Option.Rel Reorders v v') :
    Reorders (v.getD .null) (v'.getD .null) := by
  cases h with
  | none => exact .refl .null
  | some h => exact h

/-! ## Distinct keys -/

lemma hasDistinctKeys_under {tree : Json} (h : tree.HasDistinctKeys) (key : String) :
    (under key tree).HasDistinctKeys := by
  cases tree with
  | object members =>
    change ((members.lookup key).getD .null).HasDistinctKeys
    cases hvalue : members.lookup key with
    | none => trivial
    | some value => exact h.of_lookup hvalue
  | _ => trivial

lemma keys_widenMembers (members : List (String × Json)) :
    (widenMembers members).map Prod.fst = members.map Prod.fst := by
  induction members with
  | nil => rfl
  | cons member members ih => rw [widenMembers, List.map_cons, List.map_cons, ih]

mutual

lemma hasDistinctKeys_widen : {v : Json} → v.HasDistinctKeys → (widen v).HasDistinctKeys
  | .array items, h => by
    rw [widen]
    have hitems : Json.ItemsHaveDistinctKeys items := h
    exact itemsHaveDistinctKeys_widenItems hitems
  | .object members, h => by
    rw [widen]
    exact ⟨(keys_widenMembers members).symm ▸ h.1, membersHaveDistinctKeys_widenMembers h.2⟩
  | .number (.int n), _ => by
    rw [widen]
    trivial
  | .number (.float _), h | .null, h | .bool _, h | .string _, h => h

lemma itemsHaveDistinctKeys_widenItems : {items : List Json} →
    Json.ItemsHaveDistinctKeys items → Json.ItemsHaveDistinctKeys (widenItems items)
  | [], h => h
  | _ :: _, h => ⟨hasDistinctKeys_widen h.1, itemsHaveDistinctKeys_widenItems h.2⟩

lemma membersHaveDistinctKeys_widenMembers : {members : List (String × Json)} →
    Json.MembersHaveDistinctKeys members → Json.MembersHaveDistinctKeys (widenMembers members)
  | [], h => h
  | _ :: _, h => ⟨hasDistinctKeys_widen h.1, membersHaveDistinctKeys_widenMembers h.2⟩

end

lemma hasDistinctKeys_of_layerOf? {file : Option String} {layer : List (String × Json)}
    (h : layerOf? file = some layer) : (Json.object layer).HasDistinctKeys := by
  cases file with
  | none =>
    obtain rfl := Option.some.inj h
    exact ⟨List.nodup_nil, trivial⟩
  | some text =>
    simp only [layerOf?, fileLayer?] at h
    split at h
    next members hparse =>
      cases h
      have hmembers := hasDistinctKeys_widen (Json.hasDistinctKeys_of_parse? hparse)
      rwa [widen] at hmembers
    next => cases h

/-! ## Keys spelled as settings are -/

/-- The keys of a layer that are for settings and their groups are spelled as these are: they are no
case variants of them, and no paths into a group. -/
structure IsSpelled (layer : List (String × Json)) : Prop where
  groups : ∀ p ∈ leaves, ∀ key ∈ layer.map Prod.fst, (KeyPath.ofText key).root? = some p.group →
    key = p.group
  names : ∀ p ∈ leaves, ∀ group ∈ layer.lookup p.group, ∀ key ∈ (membersOf group).map Prod.fst,
    Text.lowerCase key = p.name → key = p.name

instance (layer : List (String × Json)) : Decidable (IsSpelled layer) :=
  decidable_of_iff
    ((∀ p ∈ leaves, ∀ key ∈ layer.map Prod.fst, (KeyPath.ofText key).root? = some p.group →
        key = p.group) ∧
      ∀ p ∈ leaves, ∀ group ∈ layer.lookup p.group, ∀ key ∈ (membersOf group).map Prod.fst,
        Text.lowerCase key = p.name → key = p.name)
    ⟨fun h => ⟨h.1, h.2⟩, fun h => ⟨h.groups, h.names⟩⟩

lemma bare_merged_none (v : Json) : bare (merged v none) = bare v := by
  cases v with
  | object members =>
    obtain ⟨members', hmembers'⟩ := exists_assignAll_eq_object members []
    change bare (assignAll members (.object [])) = _
    rw [hmembers']
    rfl
  | _ => rfl

lemma map_bare_merged_none (v : Option Json) : (v.map (merged · none)).map bare = v.map bare := by
  rw [Option.map_map]
  exact congrArg (v.map ·) (funext bare_merged_none)

variable {layer layer' : List (String × Json)}

lemma IsSpelled.of_reorder (h : IsSpelled layer) (horder : MembersReorder layer layer')
    (hdistinct : (Json.object layer).HasDistinctKeys) : IsSpelled layer' where
  groups p hp key hkey := h.groups p hp key (horder.keys_perm.mem_iff.mp hkey)
  names p hp group' hgroup' key hkey := by
    have hlookup := horder.rel_lookup hdistinct.1 p.group
    rw [Option.mem_def.mp hgroup'] at hlookup
    obtain ⟨group, hgroup, hvalue⟩ : ∃ group ∈ layer.lookup p.group, Reorders group group' := by
      generalize layer.lookup p.group = given at hlookup
      cases hlookup with
      | some hvalue => exact ⟨_, rfl, hvalue⟩
    exact h.names p hp group hgroup key (hvalue.keys_perm.mem_iff.mp hkey)

namespace Leaf

variable {p : Leaf}

/-- A layer whose keys are spelled as settings are gives them as it stands. -/
lemma seenIn_overlay (hp : p ∈ leaves) (hspelled : IsSpelled layer)
    (hdistinct : (Json.object layer).HasDistinctKeys) :
    p.seenIn (overlay layer (.object [])) = p.seenIn (.object layer) := by
  have hgroup : (overlay layer (.object [])).member? p.group =
      (layer.lookup p.group).map (merged · none) :=
    member?_putAll KeyPath.exists_ofText_eq (ofText_group hp) (lowerCase_group hp)
      (hspelled.groups p hp) hdistinct.1 rfl
  have hlayer : (Json.object layer).member? p.group = layer.lookup p.group := rfl
  rw [seenIn, seenIn, memberIn?, memberIn?, under, under, hgroup, hlayer, map_bare_merged_none]
  refine congrArg _ ?_
  cases hvalue : layer.lookup p.group with
  | none => rfl
  | some value =>
    cases value with
    | object members =>
      -- Below the group the keys are names of settings, which are put in one after the other too.
      have hname : (assignAll members (.object [])).member? p.name =
          (members.lookup p.name).map (merged · none) := by
        rw [assignAll_eq_putAll]
        exact member?_putAll (fun key => ⟨key, [], rfl⟩) rfl (lowerCase_name hp)
          (fun key hkey heq => hspelled.names p hp _ hvalue key hkey (Option.some.inj heq))
          (hdistinct.of_lookup hvalue).1 rfl
      exact (congrArg (Option.map bare) hname).trans (map_bare_merged_none _)
    | _ => rfl

/-- What a layer gives does not depend on its order. -/
lemma seenIn_of_reorder (p : Leaf) (horder : MembersReorder layer layer')
    (hdistinct : (Json.object layer).HasDistinctKeys) :
    p.seenIn (.object layer') = p.seenIn (.object layer) := by
  have hlookup := horder.rel_lookup hdistinct.1 p.group
  have hgroup : Reorders (under p.group (.object layer)) (under p.group (.object layer')) :=
    reorders_getD hlookup
  have hmember := hgroup.rel_member? (hasDistinctKeys_under hdistinct p.group) p.name
  exact Prod.ext (map_bare_eq_of_rel hlookup) (map_bare_eq_of_rel hmember)

end Leaf

/-- However the entries of a file are ordered, the tree has the settings that the file gives. -/
theorem sameSettings_of_reorder {file : Option String} (hfile : layerOf? file = some layer)
    (hspelled : IsSpelled layer) (horder : MembersReorder layer layer') :
    SameSettings (overlay layer' (.object [])) (.object layer) := by
  intro p hp
  have hdistinct := hasDistinctKeys_of_layerOf? hfile
  have hobjects : Reorders (.object layer) (.object layer') := ⟨layer', rfl, horder⟩
  have hdistinct' : (Json.object layer').HasDistinctKeys := hobjects.hasDistinctKeys hdistinct
  rw [p.seenIn_overlay hp (hspelled.of_reorder horder hdistinct) hdistinct',
    p.seenIn_of_reorder horder hdistinct]

end Settings

end FacetSearch
