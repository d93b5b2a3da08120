import FacetSearch.Proofs.Json.Parsing
import FacetSearch.Proofs.Settings.Order

/-!
# Layers, setting by setting

A variable of the environment sets one setting and leaves the others as the file gives them. What
the file gives for a setting that a variable sets does not matter, not even if its type is wrong.

A group of settings may also be a list in a file. A variable that sets one of the group replaces the
list as a whole.
-/

namespace FacetSearch

namespace Settings

/-- Two trees give the same, but for what they give for one setting. -/
structure Leaf.AgreeApart (p : Leaf) (tree tree' : Json) : Prop where
  groups : SameBut p.group tree tree'
  names : SameBut p.name (under p.group tree) (under p.group tree')

lemma Leaf.AgreeApart.memberIn?_eq {p q : Leaf} {tree tree' : Json} (h : p.AgreeApart tree tree')
    (hne : q ≠ p) : q.memberIn? tree = q.memberIn? tree' := by
  rw [memberIn?, memberIn?]
  by_cases hgroup : q.group = p.group
  · rw [hgroup]
    refine h.names q.name fun hname => hne ?_
    obtain ⟨group, name⟩ := q
    obtain rfl := hgroup
    obtain rfl := hname
    rfl
  · rw [under, under, h.groups q.group hgroup]

/-! ## The layer of the environment -/

/-- A layer sets single settings, each as a whole. -/
def IsByLeaf (layer : List (String × Json)) : Prop :=
  ∀ entry ∈ layer, (∃ q ∈ leaves, q.key = entry.1) ∧ ∀ members, entry.2 ≠ .object members

namespace Leaf

variable {p q : Leaf} {tree tree' : Json} {layer : List (String × Json)}

lemma isWholeIn_of_isByLeaf (p : Leaf) (h : IsByLeaf layer) : p.IsWholeIn layer := by
  intro entry hentry
  obtain ⟨⟨q, hq, hkey⟩, hvalue⟩ := h entry hentry
  by_cases heq : p = q
  · exact .inl ⟨heq ▸ hkey.symm, hvalue⟩
  · exact .inr (hkey ▸ isAvoidedBy_ofText_key hq heq)

lemma member?_assignAt_key (hq : q ∈ leaves) (value tree : Json) (k : String) :
    if k = q.group then
      ∃ members, (assignAt value (KeyPath.ofText q.key) tree).member? k = some (.object members)
    else (assignAt value (KeyPath.ofText q.key) tree).member? k = tree.member? k := by
  rw [ofText_key hq, member?_assignAt, lowerCase_group hq]
  by_cases hk : k = q.group
  · rw [if_pos hk, if_pos hk]
    exact ⟨_, congrArg some (assignAt_eq _ _ _ _)⟩
  · rw [if_neg hk, if_neg hk]

/-- A group of which the layer sets something becomes an object, and other groups stay. -/
lemma member?_overlay (hlayer : IsByLeaf layer) (tree : Json) (group : String) :
    (overlay layer tree).member? group = tree.member? group ∧
        (∀ q ∈ leaves, q.group = group → q.key ∉ layer.map Prod.fst) ∨
      (∃ members, (overlay layer tree).member? group = some (.object members)) ∧
        ∃ q ∈ leaves, q.group = group ∧ q.key ∈ layer.map Prod.fst := by
  induction layer generalizing tree with
  | nil => exact .inl ⟨rfl, fun _ _ _ => List.not_mem_nil⟩
  | cons entry layer ih =>
    obtain ⟨⟨⟨q, hq, hkey⟩, -⟩, hrest⟩ := List.forall_mem_cons.mp hlayer
    rw [overlay_cons, ← hkey, List.map_cons, ← hkey]
    have hstep := member?_assignAt_key hq entry.2 tree group
    rcases ih hrest _ with ⟨hsame, hunset⟩ | ⟨hobject, q', hq', hgroup', hmem⟩
    · rw [hsame]
      by_cases hgroup : group = q.group
      · rw [if_pos hgroup] at hstep
        exact .inr ⟨hstep, q, hq, hgroup.symm, List.mem_cons_self⟩
      · rw [if_neg hgroup] at hstep
        refine .inl ⟨hstep, fun q' hq' hgroup' hmem => ?_⟩
        rcases List.mem_cons.mp hmem with heq | hmem
        · exact hgroup (key_injOn hq' hq heq ▸ hgroup'.symm)
        · exact hunset q' hq' hgroup' hmem
    · exact .inr ⟨hobject, q', hq', hgroup', List.mem_cons_of_mem _ hmem⟩

lemma map_bare_member?_overlay (hlayer : IsByLeaf layer) (tree : Json) (group : String) :
    ((overlay layer tree).member? group).map bare =
      if ∃ q ∈ leaves, q.group = group ∧ q.key ∈ layer.map Prod.fst then some (.object [])
      else (tree.member? group).map bare := by
  rcases member?_overlay hlayer tree group with ⟨hsame, hunset⟩ | ⟨⟨members, hobject⟩, hset⟩
  · rw [hsame, if_neg fun ⟨q, hq, hgroup, hmem⟩ => hunset q hq hgroup hmem]
  · rw [hobject, if_pos hset]
    rfl

/-- What is seen of a setting over a layer depends on the tree only where the layer sets nothing,
and on the order of the layer not at all. -/
lemma seenIn_overlay_congr {layer' : List (String × Json)} (hp : p ∈ leaves)
    (hlayer : IsByLeaf layer) (hperm : layer.Perm layer') (hnodup : (layer.map Prod.fst).Nodup)
    (hgroup : (∃ q ∈ leaves, q.group = p.group ∧ q.key ∈ layer.map Prod.fst) ∨
      (tree.member? p.group).map bare = (tree'.member? p.group).map bare)
    (hmember : p.key ∈ layer.map Prod.fst ∨
      (p.memberIn? tree).map bare = (p.memberIn? tree').map bare) :
    p.seenIn (overlay layer tree) = p.seenIn (overlay layer' tree') := by
  have hlayer' : IsByLeaf layer' := fun entry hentry => hlayer entry (hperm.mem_iff.mpr hentry)
  have hkeys (key : String) : key ∈ layer.map Prod.fst ↔ key ∈ layer'.map Prod.fst :=
    (hperm.map Prod.fst).mem_iff
  refine Prod.ext ?_ ?_
  · change ((overlay layer tree).member? p.group).map bare =
      ((overlay layer' tree').member? p.group).map bare
    rw [map_bare_member?_overlay hlayer, map_bare_member?_overlay hlayer']
    simp only [← hkeys]
    split
    next => rfl
    next hunset => exact hgroup.resolve_left hunset
  · change (p.memberIn? (overlay layer tree)).map bare =
      (p.memberIn? (overlay layer' tree')).map bare
    have hlookup : layer.reverse.lookup p.key = layer'.reverse.lookup p.key := by
      refine Json.lookup_eq_of_perm ?_ ?_ p.key
      · exact (layer.reverse_perm.trans hperm).trans layer'.reverse_perm.symm
      · rwa [List.map_reverse, List.nodup_reverse]
    rw [memberIn?_overlay hp (p.isWholeIn_of_isByLeaf hlayer),
      memberIn?_overlay hp (p.isWholeIn_of_isByLeaf hlayer'), ← hlookup]
    cases hvalue : layer.reverse.lookup p.key with
    | some value => rfl
    | none => exact hmember.resolve_left (lookup_reverse_eq_none_iff.mp hvalue)

end Leaf

/-- Layers that set single settings have the same settings over trees that do, in any order. -/
lemma SameSettings.overlay {tree tree' : Json} (h : SameSettings tree tree')
    {layer layer' : List (String × Json)} (hlayer : IsByLeaf layer) (hperm : layer.Perm layer')
    (hnodup : (layer.map Prod.fst).Nodup) :
    SameSettings (overlay layer tree) (Settings.overlay layer' tree') := fun p hp =>
  p.seenIn_overlay_congr hp hlayer hperm hnodup (.inr (congrArg Prod.fst (h p hp)))
    (.inr (congrArg Prod.snd (h p hp)))

/-- Trees that differ in one setting have the same settings once a layer has set it. -/
lemma Leaf.AgreeApart.overlay {p : Leaf} {tree tree' : Json} (h : p.AgreeApart tree tree')
    (hp : p ∈ leaves) {layer : List (String × Json)} (hlayer : IsByLeaf layer)
    (hnodup : (layer.map Prod.fst).Nodup) (hset : p.key ∈ layer.map Prod.fst) :
    SameSettings (overlay layer tree) (Settings.overlay layer tree') := by
  intro q hq
  refine q.seenIn_overlay_congr hq hlayer (.refl layer) hnodup ?_ ?_
  · by_cases hgroup : q.group = p.group
    · exact .inl ⟨p, hp, hgroup.symm, hset⟩
    · exact .inr (congrArg _ (h.groups q.group hgroup))
  · by_cases hne : q = p
    · exact .inl (hne ▸ hset)
    · exact .inr (congrArg _ (h.memberIn?_eq hne))

/-! ## All layers -/

/-- The variables that are settings set single ones. -/
def SetsLeaves (environment : List (String × String)) : Prop :=
  ∀ entry ∈ environment, ∀ key ∈ variableKey? entry.1, ∃ p ∈ leaves, p.key = key

instance (environment : List (String × String)) : Decidable (SetsLeaves environment) :=
  inferInstanceAs (Decidable (∀ entry ∈ environment, ∀ key ∈ variableKey? entry.1,
    ∃ p ∈ leaves, p.key = key))

/-- No two variables set the same setting. -/
def SetsOnce (environment : List (String × String)) : Prop :=
  ((environmentLayer environment).map Prod.fst).Nodup

instance (environment : List (String × String)) : Decidable (SetsOnce environment) :=
  inferInstanceAs (Decidable ((environmentLayer environment).map Prod.fst).Nodup)

variable {environment : List (String × String)} {p : Leaf}

lemma isByLeaf_environmentLayer (h : SetsLeaves environment) :
    IsByLeaf (environmentLayer environment) := by
  intro entry hentry
  obtain ⟨⟨name, text⟩, hmem, hentry⟩ := List.mem_filterMap.mp hentry
  obtain ⟨key, hkey, rfl⟩ := Option.map_eq_some_iff.mp hentry
  exact ⟨h _ hmem key hkey, variableValue_ne_object key text⟩

/-- A setting that no variable sets is given as the file alone gives it. If a variable sets another
one of its group, the group is an object. -/
lemma givenIn?_overlay (henv : SetsLeaves environment) (hp : p ∈ leaves)
    (hunset : ¬ p.IsSetBy environment) (members : List (String × Json)) :
    let tree := overlay (environmentLayer environment) (.object members)
    p.givenIn? .lenient tree = p.givenIn? .lenient (.object members) ∧
        (∀ q ∈ leaves, q.group = p.group → ¬ q.IsSetBy environment) ∨
      p.givenIn? .lenient tree = p.memberIn? (.object members) ∧
        ∃ q ∈ leaves, q.group = p.group ∧ q.IsSetBy environment := by
  intro tree
  have hlayer := isByLeaf_environmentLayer henv
  obtain ⟨merged, hmerged⟩ : ∃ merged, tree = .object merged := exists_overlay_eq_object _ _
  simp only [Leaf.isSetBy_iff] at hunset ⊢
  rcases Leaf.member?_overlay hlayer (.object members) p.group with
    ⟨hsame, hothers⟩ | ⟨⟨values, hvalues⟩, q, hq⟩
  · refine .inl ⟨?_, hothers⟩
    change tree.member? p.group = _ at hsame
    rw [hmerged] at hsame ⊢
    exact congrArg (Option.bind · _) hsame
  · refine .inr ⟨?_, q, hq⟩
    have hmember : p.memberIn? tree = p.memberIn? (.object members) := by
      rw [Leaf.memberIn?_overlay hp (p.isWholeIn_of_isByLeaf hlayer),
        Leaf.lookup_reverse_eq_none_iff.mpr hunset, Option.none_or]
    change tree.member? p.group = _ at hvalues
    rw [hmerged] at hmember hvalues ⊢
    rw [← hmember, Leaf.memberIn?_eq_givenIn? fun items hitems => ?_]
    cases hvalues.symm.trans hitems

variable {s alone : Settings} {file : Option String} {layer : List (String × Json)}

lemma read?_overlay_congr {layer layer' members members' : List (String × Json)}
    (h : SameSettings (overlay layer (.object members)) (overlay layer' (.object members'))) :
    read? .lenient (overlay layer (.object members)) =
      read? .lenient (overlay layer' (.object members')) := by
  obtain ⟨merged, hmerged⟩ := exists_overlay_eq_object layer members
  obtain ⟨merged', hmerged'⟩ := exists_overlay_eq_object layer' members'
  rw [hmerged, hmerged'] at h ⊢
  exact read?_congr h

/-- With keys that are spelled as settings are, the order in which the program merges does not
matter, and the file gives what its layer does. -/
lemma eq_of_loads (henv : SetsLeaves environment) (honce : SetsOnce environment)
    (hfile : layerOf? file = some layer) (hspelled : IsSpelled layer) {outcome : Option Settings}
    (h : Loads file environment outcome) :
    outcome = read? .lenient (overlay (environmentLayer environment) (.object layer)) := by
  rw [Loads, hfile] at h
  obtain ⟨layer', given, horder, hperm, rfl⟩ := h
  have hsame := (sameSettings_of_reorder hfile hspelled horder).symm.overlay
    (isByLeaf_environmentLayer henv) hperm honce
  obtain ⟨members', hmembers'⟩ := exists_overlay_eq_object layer' []
  rw [hmembers'] at hsame ⊢
  exact (read?_overlay_congr hsame).symm

lemma loads_load? (file : Option String) (environment : List (String × String)) :
    Loads file environment (load? file environment) := by
  rw [Loads, load?]
  cases layerOf? file with
  | none => rfl
  | some layer => exact ⟨layer, environmentLayer environment, .refl layer, .refl _, rfl⟩

lemma load?_of_isSpelled (henv : SetsLeaves environment) (honce : SetsOnce environment)
    (hfile : layerOf? file = some layer) (hspelled : IsSpelled layer) :
    load? file environment =
      read? .lenient (overlay (environmentLayer environment) (.object layer)) :=
  eq_of_loads henv honce hfile hspelled (loads_load? file environment)

lemma load?_nil_of_isSpelled (hfile : layerOf? file = some layer) (hspelled : IsSpelled layer) :
    load? file [] = read? .lenient (.object layer) :=
  load?_of_isSpelled (List.forall_mem_nil _) List.nodup_nil hfile hspelled

lemma load?_congr_of_isSetBy (henv : SetsLeaves environment) (honce : SetsOnce environment)
    (hp : p ∈ leaves) (hset : p.IsSetBy environment) {file' : Option String}
    {layer' : List (String × Json)} (hfile : layerOf? file = some layer)
    (hfile' : layerOf? file' = some layer') (hspelled : IsSpelled layer)
    (hspelled' : IsSpelled layer') (hapart : p.AgreeApart (.object layer) (.object layer')) :
    load? file environment = load? file' environment := by
  rw [load?_of_isSpelled henv honce hfile hspelled, load?_of_isSpelled henv honce hfile' hspelled']
  refine read?_overlay_congr ?_
  exact hapart.overlay hp (isByLeaf_environmentLayer henv) honce (Leaf.isSetBy_iff.mp hset)

lemma Leaf.valueIn?_load?_alone (henv : SetsLeaves environment) (honce : SetsOnce environment)
    (hp : p ∈ leaves) (hunset : ¬ p.IsSetBy environment) (hfile : layerOf? file = some layer)
    (hspelled : IsSpelled layer) (hload : load? file environment = some s)
    (halone : load? file [] = some alone)
    (hgroup : (∀ items, layer.lookup p.group ≠ some (.array items)) ∨
      ∀ q ∈ leaves, q.group = p.group → ¬ q.IsSetBy environment) :
    p.valueIn? s = p.valueIn? alone := by
  rw [load?_of_isSpelled henv honce hfile hspelled] at hload
  rw [load?_nil_of_isSpelled hfile hspelled] at halone
  refine valueIn?_congr hp hload halone ?_
  rcases givenIn?_overlay henv hp hunset layer with ⟨hsame, -⟩ | ⟨hmember, q, hq, hqgroup, hset⟩
  · exact hsame
  · -- The group became an object, so it must not have been a list.
    have hlist := hgroup.resolve_right fun hothers => hothers q hq hqgroup hset
    exact hmember.trans (memberIn?_eq_givenIn? hlist)

lemma Leaf.valueIn?_load?_default (henv : SetsLeaves environment) (honce : SetsOnce environment)
    (hp : p ∈ leaves) (hunset : ¬ p.IsSetBy environment) (hfile : layerOf? file = some layer)
    (hspelled : IsSpelled layer) (hload : load? file environment = some s)
    (hnone : p.givenIn? .lenient (.object layer) = none) : p.valueIn? s = p.valueIn? {} := by
  rw [load?_of_isSpelled henv honce hfile hspelled] at hload
  refine valueIn?_of_givenIn?_eq_none hp hload ?_
  rcases givenIn?_overlay henv hp hunset layer with ⟨hsame, -⟩ | ⟨hmember, -⟩
  · exact hsame.trans hnone
  · exact hmember.trans (memberIn?_eq_none hnone)

/-- With a file whose keys are spelled as settings are, and variables that set single settings,
each at most once: whatever the order in which the program merges, one outcome is loaded. For a
setting that a variable sets, it does not matter what the file gives. Any other setting has the
value that it has with the file alone, unless the file lists its group and a variable sets another
one of the group, and it has its default if the file does not give it. -/
theorem load?_setting_by_setting (henv : SetsLeaves environment) (honce : SetsOnce environment)
    (hp : p ∈ leaves) (hfile : layerOf? file = some layer) (hspelled : IsSpelled layer) :
    (∀ outcome, Loads file environment outcome ↔ outcome = load? file environment) ∧
    (p.IsSetBy environment → ∀ file' layer', layerOf? file' = some layer' → IsSpelled layer' →
      p.AgreeApart (.object layer) (.object layer') →
      load? file environment = load? file' environment) ∧
    (¬ p.IsSetBy environment → ∀ s, load? file environment = some s →
      (∀ alone, load? file [] = some alone →
        ((∀ items, layer.lookup p.group ≠ some (.array items)) ∨
          ∀ q ∈ leaves, q.group = p.group → ¬ q.IsSetBy environment) →
        p.valueIn? s = p.valueIn? alone) ∧
      (p.givenIn? .lenient (.object layer) = none → p.valueIn? s = p.valueIn? {})) := by
  refine ⟨fun outcome => ⟨fun h => ?_, ?_⟩, ?_, fun hunset s hload => ⟨?_, ?_⟩⟩
  · rw [eq_of_loads henv honce hfile hspelled h, load?_of_isSpelled henv honce hfile hspelled]
  · rintro rfl
    exact loads_load? file environment
  · intro hset file' layer' hfile' hspelled' hapart
    exact load?_congr_of_isSetBy henv honce hp hset hfile hfile' hspelled hspelled' hapart
  · intro alone halone hgroup
    exact p.valueIn?_load?_alone henv honce hp hunset hfile hspelled hload halone hgroup
  · intro hnone
    exact p.valueIn?_load?_default henv honce hp hunset hfile hspelled hload hnone

/-- An object is a layer as it is written. -/
lemma layerOf?_text {members : List (String × Json)}
    (h : Json.Readable Json.maxDepth (.object members)) :
    layerOf? (some (Json.text (.object members))) = some (widenMembers members) := by
  have hparse := Json.parse?_text h
  have hbegin : (Json.text (.object members)).toList =
      '\x7b' :: (Json.memberChars Json.escapeChar members ++ ['\x7d']) := by
    rw [Json.text, String.toList_ofList]
    rfl
  simp [layerOf?, fileLayer?, hbegin, hparse]

/-- The port is set by a variable and wrong in the file, and the host is given beside it. -/
theorem load?_setting_by_setting_port :
    let environment := [("CATALOG__SERVER__PORT", "80")]
    let layer (port : List (String × Json)) :=
      [("server", Json.object (("host", .string "10.0.0.1") :: port))]
    let file (port : List (String × Json)) := some (Json.text (.object (layer port)))
    let wrong := [("port", Json.array [])]
    SetsLeaves environment ∧ SetsOnce environment ∧ layerOf? (file wrong) = some (layer wrong) ∧
      IsSpelled (layer wrong) ∧
      (∀ outcome, Loads (file wrong) environment outcome ↔
        outcome = load? (file wrong) environment) ∧
      load? (file wrong) environment = load? (file []) environment ∧
      ∃ s alone, load? (file []) environment = some s ∧ load? (file []) [] = some alone ∧
        Leaf.valueIn? ⟨"server", "host"⟩ s = Leaf.valueIn? ⟨"server", "host"⟩ alone ∧
        Leaf.valueIn? ⟨"logging", "level"⟩ s = Leaf.valueIn? ⟨"logging", "level"⟩ {} := by
  intro environment layer file wrong
  have henv : SetsLeaves environment := by decide +kernel
  have honce : SetsOnce environment := by decide +kernel
  have hwrong : layerOf? (file wrong) = some (layer wrong) :=
    layerOf?_text ⟨List.nodup_singleton _, ⟨by decide, trivial, trivial, trivial⟩, trivial⟩
  have hright : layerOf? (file []) = some (layer []) :=
    layerOf?_text ⟨List.nodup_singleton _, ⟨by decide, trivial, trivial⟩, trivial⟩
  have hspelled : IsSpelled (layer wrong) := by decide +kernel
  have hspelled' : IsSpelled (layer []) := by decide +kernel
  have hset : Leaf.IsSetBy ⟨"server", "port"⟩ environment := by decide +kernel
  have hapart :
      Leaf.AgreeApart ⟨"server", "port"⟩ (.object (layer wrong)) (.object (layer [])) := by
    refine ⟨fun group hgroup => ?_, fun name hname => ?_⟩
    · simp [layer, Json.member?, List.lookup_cons, beq_false_of_ne hgroup]
    · simp [layer, wrong, under, Json.member?, List.lookup_cons, beq_false_of_ne hname]
  have hport := load?_setting_by_setting henv honce (p := ⟨"server", "port"⟩) (by decide) hwrong
    hspelled
  have hload : load? (file []) environment =
      some { server := { host := "10.0.0.1", port := 80 } } := by decide +kernel
  have halone : load? (file []) [] = some { server := { host := "10.0.0.1" } } := by decide +kernel
  have hunset : ∀ p ∈ leaves, p ≠ ⟨"server", "port"⟩ → ¬ p.IsSetBy environment := by
    decide +kernel
  have hspare {p : Leaf} (hp : p ∈ leaves) (hne : p ≠ ⟨"server", "port"⟩) :=
    (load?_setting_by_setting henv honce hp hright hspelled').2.2 (hunset p hp hne) _ hload
  refine ⟨henv, honce, hwrong, hspelled, hport.1,
    hport.2.1 hset _ _ hright hspelled' hapart, _, _, hload, halone, ?_, ?_⟩
  · exact (hspare (by decide) (by decide)).1 _ halone (.inl fun items h => by cases h)
  · exact (hspare (p := ⟨"logging", "level"⟩) (by decide) (by decide)).2 rfl

/-- A group that a file lists is replaced as a whole: with the port from the environment, the host
is no longer the one of the list. A key with a point in it is a path: with `server.port` alone, the
port is not given in its group, and is not the default. -/
theorem settings_given_by_position_or_path :
    let listed := "\x7b\"server\": [\"10.0.0.1\"]\x7d"
    let environment := [("CATALOG__SERVER__PORT", "80")]
    let path := "\x7b\"server.port\": 82\x7d"
    let host : Leaf := ⟨"server", "host"⟩
    let port : Leaf := ⟨"server", "port"⟩
    (SetsLeaves environment ∧ SetsOnce environment ∧ host ∈ leaves ∧ ¬ host.IsSetBy environment ∧
      (∃ layer, layerOf? (some listed) = some layer ∧ IsSpelled layer) ∧
      ∃ s alone, load? (some listed) environment = some s ∧ load? (some listed) [] = some alone ∧
        host.valueIn? alone = some (.string "10.0.0.1") ∧
        host.valueIn? s = some (.string "0.0.0.0")) ∧
    port ∈ leaves ∧ ¬ port.IsSetBy [] ∧
      (∃ layer, layerOf? (some path) = some layer ∧
        port.givenIn? .lenient (.object layer) = none) ∧
      ∃ s, load? (some path) [] = some s ∧ port.valueIn? s = some (.int 82) ∧
        port.valueIn? {} = some (.int 9000) := by
  intro listed environment path host port
  have hload : load? (some listed) environment = some { server := { port := 80 } } := by
    decide +kernel
  have halone : load? (some listed) [] = some { server := { host := "10.0.0.1" } } := by
    decide +kernel
  have hspelled : (layerOf? (some listed)).any (fun layer => decide (IsSpelled layer)) := by
    decide +kernel
  have hpath : load? (some path) [] = some { server := { port := 82 } } := by decide +kernel
  have hnone : (layerOf? (some path)).any
      fun layer => (port.givenIn? .lenient (.object layer)).isNone := by decide +kernel
  obtain ⟨layer, hlayer, hspelled⟩ := Option.any_eq_true _ _ |>.mp hspelled
  obtain ⟨layer', hlayer', hnone⟩ := Option.any_eq_true _ _ |>.mp hnone
  refine ⟨⟨by decide +kernel, by decide +kernel, by decide, by decide +kernel,
    ⟨layer, hlayer, of_decide_eq_true hspelled⟩, _, _, hload, halone, rfl, rfl⟩,
    by decide, by decide +kernel, ⟨layer', hlayer', Option.isNone_iff_eq_none.mp hnone⟩,
    _, hpath, rfl, rfl⟩

end Settings

end FacetSearch
