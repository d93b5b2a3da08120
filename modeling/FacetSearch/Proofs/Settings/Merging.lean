import FacetSearch.Settings.Layers
import Mathlib.Tactic.Lemma

/-!
# Merging into trees

What stands under a key once a value has been put in at a path: only the first key of the path gets
a new value. So a key to which one entry of a layer leads gets the value of that entry, wherever in
the layer it is.
-/

namespace FacetSearch

namespace Json

lemma lookup_setMember (key k : String) (value : Json) (members : List (String × Json)) :
    (setMember key value members).lookup k =
      if k = key then some value else members.lookup k := by
  induction members with
  | nil =>
    by_cases hk : k = key
    · simp [setMember, hk]
    · simp [setMember, hk, List.lookup_cons, beq_false_of_ne hk]
  | cons member members ih =>
    obtain ⟨first, old⟩ := member
    rw [setMember]
    by_cases hfirst : first = key
    · rw [if_pos hfirst, List.lookup_cons, List.lookup_cons, hfirst]
      by_cases hk : k = key
      · simp [hk]
      · simp [hk, beq_false_of_ne hk]
    · rw [if_neg hfirst, List.lookup_cons, List.lookup_cons, ih]
      by_cases hk : k = first
      · simp [hk, hfirst]
      · simp [beq_false_of_ne hk]

end Json

namespace Settings

open Json (member?)

lemma lookup_membersOf (key : String) (tree : Json) :
    (membersOf tree).lookup key = tree.member? key := by
  cases tree <;> rfl

/-- What a value makes of what it is merged into. -/
def merged (value : Json) (old : Option Json) : Json :=
  match value with
  | .object members => assignAll members (old.getD (.object []))
  | v => v

/-- What a value, put in at the end of a path, makes of what the path starts from. -/
def mergedAt (value : Json) (path : KeyPath) (old : Option Json) : Json :=
  match path with
  | [] => merged value old
  | path => assignAt value path (old.getD .null)

lemma member?_setMember (key k : String) (value root : Json) :
    (Json.object (Json.setMember key value (membersOf root))).member? k =
      if k = key then some value else root.member? k := by
  rw [member?, Json.lookup_setMember, lookup_membersOf]

lemma assign_eq (value : Json) (key : String) (root : Json) :
    assign value key root = .object (Json.setMember (Text.lowerCase key)
      (merged value (root.member? (Text.lowerCase key))) (membersOf root)) := by
  cases value with
  | object members => simp only [assign, merged, lookup_membersOf]
  | _ => simp only [assign, merged]

lemma assignAt_eq (value : Json) (key : String) (path : KeyPath) (root : Json) :
    assignAt value (.member key :: path) root = .object (Json.setMember (Text.lowerCase key)
      (mergedAt value path (root.member? (Text.lowerCase key))) (membersOf root)) := by
  cases path with
  | nil => exact assign_eq value key root
  | cons step path => simp only [assignAt, mergedAt, lookup_membersOf]

/-- Only the first key of a path gets a new value. -/
lemma member?_assignAt (value : Json) (key k : String) (path : KeyPath) (root : Json) :
    (assignAt value (.member key :: path) root).member? k =
      if k = Text.lowerCase key then some (mergedAt value path (root.member? k))
      else root.member? k := by
  rw [assignAt_eq, member?_setMember]
  by_cases hk : k = Text.lowerCase key
  · rw [if_pos hk, if_pos hk, hk]
  · rw [if_neg hk, if_neg hk]

/-- Every path starts with a key. -/
lemma KeyPath.exists_ofText_eq (s : String) : ∃ key path, ofText s = .member key :: path := by
  rw [ofText]
  cases readSteps? s.toList.length (s.toList.dropWhile isKeyChar) with
  | none => exact ⟨s, [], rfl⟩
  | some steps =>
    dsimp only
    split
    · exact ⟨s, [], rfl⟩
    · exact ⟨_, steps, rfl⟩

lemma overlay_cons (key : String) (value : Json) (layer : List (String × Json)) (root : Json) :
    overlay ((key, value) :: layer) root =
      overlay layer (assignAt value (KeyPath.ofText key) root) := rfl

/-! ## Layers -/

/-- The key of the root that a path leads to. -/
def KeyPath.root? : KeyPath → Option String
  | .member key :: _ => some (Text.lowerCase key)
  | _ => none

/-- The tree with the entries of a layer put in one after the other. -/
def putAll (pathOf : String → KeyPath) (layer : List (String × Json)) (root : Json) : Json :=
  layer.foldl (fun tree (key, value) => assignAt value (pathOf key) tree) root

lemma assignAll_eq_putAll (members : List (String × Json)) (root : Json) :
    assignAll members root = putAll (fun key => [.member key]) members root := by
  induction members generalizing root with
  | nil => rfl
  | cons member members ih => exact ih _

section

variable {pathOf : String → KeyPath} {k : String} {layer : List (String × Json)} {root : Json}
  (hpaths : ∀ key, ∃ first path, pathOf key = .member first :: path)
include hpaths

/-- A tree stays an object. -/
lemma exists_putAll_eq_object (layer members : List (String × Json)) :
    ∃ members', putAll pathOf layer (.object members) = .object members' := by
  induction layer generalizing members with
  | nil => exact ⟨members, rfl⟩
  | cons entry layer ih =>
    obtain ⟨first, path, hpath⟩ := hpaths entry.1
    change ∃ members', putAll pathOf layer (assignAt entry.2 (pathOf entry.1) _) = _
    rw [hpath, assignAt_eq]
    exact ih _

lemma member?_assignAt_of_root?_ne {key : String} (h : (pathOf key).root? ≠ some k) (value : Json) :
    (assignAt value (pathOf key) root).member? k = root.member? k := by
  obtain ⟨first, path, hpath⟩ := hpaths key
  rw [hpath] at h ⊢
  rw [member?_assignAt, if_neg fun heq => h (congrArg some heq.symm)]

lemma member?_putAll_of_root?_ne (h : ∀ key ∈ layer.map Prod.fst, (pathOf key).root? ≠ some k) :
    (putAll pathOf layer root).member? k = root.member? k := by
  induction layer generalizing root with
  | nil => rfl
  | cons entry layer ih =>
    rw [List.map_cons, List.forall_mem_cons] at h
    exact (ih h.2).trans (member?_assignAt_of_root?_ne hpaths h.1 entry.2)

/-- A key to which no other path leads gets the value that the layer has for it, whatever the order
of the layer is. -/
lemma member?_putAll (hself : pathOf k = [.member k]) (hlower : Text.lowerCase k = k)
    (honly : ∀ key ∈ layer.map Prod.fst, (pathOf key).root? = some k → key = k)
    (hnodup : (layer.map Prod.fst).Nodup) (hroot : root.member? k = none) :
    (putAll pathOf layer root).member? k = (layer.lookup k).map (merged · none) := by
  induction layer generalizing root with
  | nil => exact hroot
  | cons entry layer ih =>
    obtain ⟨key, value⟩ := entry
    obtain ⟨hkey, hrest⟩ := List.forall_mem_cons.mp honly
    obtain ⟨hnew, hnodup⟩ := List.nodup_cons.mp hnodup
    change (putAll pathOf layer (assignAt value (pathOf key) root)).member? k = _
    by_cases heq : key = k
    · obtain rfl := heq
      have hothers : ∀ other ∈ layer.map Prod.fst, (pathOf other).root? ≠ some key :=
        fun other hother h => hnew (hrest other hother h ▸ hother)
      rw [member?_putAll_of_root?_ne hpaths hothers, hself, member?_assignAt, hlower, if_pos rfl,
        hroot, List.lookup_cons_self, Option.map_some]
      rfl
    · have hroot' : (assignAt value (pathOf key) root).member? k = none :=
        (member?_assignAt_of_root?_ne hpaths (mt hkey heq) value).trans hroot
      rw [ih hrest hnodup hroot', List.lookup_cons, beq_false_of_ne (Ne.symm heq)]

end

lemma exists_overlay_eq_object (layer members : List (String × Json)) :
    ∃ members', overlay layer (.object members) = .object members' :=
  exists_putAll_eq_object KeyPath.exists_ofText_eq layer members

lemma exists_assignAll_eq_object (layer members : List (String × Json)) :
    ∃ members', assignAll layer (.object members) = .object members' := by
  rw [assignAll_eq_putAll]
  exact exists_putAll_eq_object (fun key => ⟨key, [], rfl⟩) layer members

/-! ## Trees with the same members, but for one key -/

/-- The two trees have the same members, but for those under a key. -/
def SameBut (key : String) (tree tree' : Json) : Prop :=
  ∀ k, k ≠ key → tree.member? k = tree'.member? k

end Settings

end FacetSearch
