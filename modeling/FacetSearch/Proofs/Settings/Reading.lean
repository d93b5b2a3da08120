import FacetSearch.Proofs.Settings.Places

/-!
# What matters of a tree

Of a tree of settings only what stands in the places of groups and of single settings matters. An
object is no value of a single setting, whatever its members are.
-/

namespace FacetSearch

namespace Settings

/-- A value without the members that it has as an object. -/
def bare : Json → Json
  | .object _ => .object []
  | v => v

lemma eq_or_objects_of_map_bare {v v' : Option Json} (h : v.map bare = v'.map bare) :
    v = v' ∨ ∃ members members', v = some (.object members) ∧ v' = some (.object members') := by
  have hbare (w : Json) : bare w = w ∨ ∃ members, w = .object members := by
    cases w with
    | object members => exact .inr ⟨members, rfl⟩
    | _ => exact .inl rfl
  cases v with
  | none => exact .inl (Option.map_eq_none_iff.mp h.symm).symm
  | some v =>
    obtain ⟨v', rfl, hsame⟩ := Option.map_eq_some_iff.mp h.symm
    rcases hbare v with hv | ⟨members, rfl⟩
    · rcases hbare v' with hv' | ⟨members', rfl⟩
      · exact .inl (congrArg some (hv.symm.trans (hsame.symm.trans hv')))
      · rw [hv] at hsame
        exact .inr ⟨[], members', congrArg some hsame.symm, rfl⟩
    · rcases hbare v' with hv' | ⟨members', rfl⟩
      · exact .inr ⟨members, [], rfl, congrArg some (hv'.symm.trans hsame)⟩
      · exact .inr ⟨members, members', rfl, rfl⟩

namespace Leaf

variable {p : Leaf} {c : Coercion} {f : RecordField}

/-- What a tree has in place of the group of a setting, and in the place of the setting. -/
def seenIn (p : Leaf) (tree : Json) : Option Json × Option Json :=
  ((tree.member? p.group).map bare, (p.memberIn? tree).map bare)

lemma IsReadBy.mem_leaves (h : p.IsReadBy c f) : p ∈ leaves := by
  have hmem {group : String} {names : List String} {fields : List RecordField}
      (hgroup : (group, names) ∈ groups) (hnames : fields.map RecordField.name = names)
      (hf : f ∈ fields) : ⟨group, f.name⟩ ∈ leaves :=
    List.mem_flatMap.mpr ⟨_, hgroup, List.mem_map_of_mem (hnames ▸ List.mem_map_of_mem hf)⟩
  obtain ⟨group, name⟩ := p
  obtain ⟨rfl, ⟨rfl, hf⟩ | ⟨rfl, hf⟩ | ⟨rfl, hf⟩ | ⟨rfl, hf⟩⟩ := h
  · exact hmem (by simp [groups]) (ServerSettings.describe c).names_eq hf
  · exact hmem (by simp [groups]) (DatabaseSettings.describe c).names_eq hf
  · exact hmem (by simp [groups]) (SearchSettings.describe c).names_eq hf
  · exact hmem (by simp [groups]) (LoggingSettings.describe c).names_eq hf

/-- An object is no value of a single setting. -/
lemma IsReadBy.reread?_object (h : p.IsReadBy .lenient f) (members : List (String × Json)) :
    f.reread? (some (.object members)) = none := by
  obtain ⟨-, ⟨-, hf⟩ | ⟨-, hf⟩ | ⟨-, hf⟩ | ⟨-, hf⟩⟩ := h
  all_goals
    simp only [ServerSettings.fields, DatabaseSettings.fields, SearchSettings.fields,
      LoggingSettings.fields, List.mem_cons, List.not_mem_nil, or_false] at hf
    rcases hf with rfl | rfl | rfl | rfl | rfl | rfl | rfl
  all_goals rfl

end Leaf

/-- Two trees have the same in the places of settings and of their groups. -/
def SameSettings (tree tree' : Json) : Prop := ∀ p ∈ leaves, p.seenIn tree = p.seenIn tree'

lemma SameSettings.symm {tree tree' : Json} (h : SameSettings tree tree') :
    SameSettings tree' tree := fun p hp => (h p hp).symm

variable {members members' : List (String × Json)}

/-- A group is read from what is seen of its settings. -/
lemma reread?_group_congr (h : SameSettings (.object members) (.object members')) {α : Type}
    {group : String} {fields : List RecordField} {names : List String} {read? : Json → Option α}
    {write : α → Json} {default : α}
    (hdescribe : RecordField.Describe .lenient fields names read? write default)
    (hfields : ∀ f ∈ fields, Leaf.IsReadBy ⟨group, f.name⟩ .lenient f) (hne : fields ≠ []) :
    (RecordField.withDefault group default read? write).reread? (members.lookup group) =
      (RecordField.withDefault group default read? write).reread? (members'.lookup group) := by
  have hseen {f : RecordField} (hf : f ∈ fields) := Prod.mk.inj (h _ (hfields f hf).mem_leaves)
  obtain ⟨first, hfirst⟩ := List.exists_mem_of_ne_nil fields hne
  rcases eq_or_objects_of_map_bare (hseen hfirst).1 with heq | ⟨values, values', hvalues, hvalues'⟩
  · exact congrArg _ heq
  · have hobjects : (read? (.object values)).map write = (read? (.object values')).map write := by
      refine hdescribe.map_read?_congr (fun _ => rfl) fun f hf => ?_
      have hmember := (hseen hf).2
      simp only [Leaf.memberIn?, under, hvalues, hvalues', Option.getD_some] at hmember
      rcases eq_or_objects_of_map_bare hmember with heq | ⟨inner, inner', hinner, hinner'⟩
      · exact congrArg f.reread? heq
      · change f.reread? ((Json.object values).member? f.name) =
          f.reread? ((Json.object values').member? f.name)
        rw [hinner, hinner', (hfields f hf).reread?_object, (hfields f hf).reread?_object]
    change members.lookup group = _ at hvalues
    change members'.lookup group = _ at hvalues'
    rw [hvalues, hvalues']
    exact hobjects

/-- Trees are read alike if they have the same in the places of settings and of their groups. -/
theorem read?_congr (h : SameSettings (.object members) (.object members')) :
    read? .lenient (.object members) = read? .lenient (.object members') := by
  refine Option.map_injective toJson_injective ?_
  refine (describe .lenient).map_read?_congr (fun _ => rfl) fun f hf => ?_
  simp only [fields, List.mem_cons, List.not_mem_nil, or_false] at hf
  rcases hf with rfl | rfl | rfl | rfl
  · exact reread?_group_congr h (ServerSettings.describe .lenient)
      (fun f hf => ⟨rfl, .inl ⟨rfl, hf⟩⟩) (List.cons_ne_nil _ _)
  · exact reread?_group_congr h (DatabaseSettings.describe .lenient)
      (fun f hf => ⟨rfl, .inr (.inl ⟨rfl, hf⟩)⟩) (List.cons_ne_nil _ _)
  · exact reread?_group_congr h (SearchSettings.describe .lenient)
      (fun f hf => ⟨rfl, .inr (.inr (.inl ⟨rfl, hf⟩))⟩) (List.cons_ne_nil _ _)
  · exact reread?_group_congr h (LoggingSettings.describe .lenient)
      (fun f hf => ⟨rfl, .inr (.inr (.inr ⟨rfl, hf⟩))⟩) (List.cons_ne_nil _ _)

end Settings

end FacetSearch
