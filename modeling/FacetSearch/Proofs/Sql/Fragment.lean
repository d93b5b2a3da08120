import FacetSearch.Sql.Order
import Mathlib.Tactic.Lemma

/-!
# Fragments as sequences

The text and the values of a fragment are those of its parts one after the other, and the
places of a later part are numbered on from those of the earlier ones.
-/

namespace FacetSearch.Fragment

@[simp] lemma binds_nil : binds [] = [] := rfl

@[simp] lemma binds_sql_cons (s : String) (f : Fragment) : binds (.sql s :: f) = binds f := rfl

@[simp] lemma binds_value_cons (b : Bind) (f : Fragment) :
    binds (.value b :: f) = b :: binds f := rfl

@[simp] lemma binds_append (f g : Fragment) : binds (f ++ g) = binds f ++ binds g := by
  induction f with
  | nil => rfl
  | cons piece f ih =>
    cases piece with
    | sql s => simpa using ih
    | value b => simpa using ih

lemma text_append (bound : Nat) (f g : Fragment) :
    text bound (f ++ g) = text bound f ++ text (bound + (binds f).length) g := by
  induction f generalizing bound with
  | nil => simp [text]
  | cons piece f ih =>
    cases piece with
    | sql s => simp [text, ih, String.append_assoc]
    | value b =>
      have hnext : bound + 1 + (binds f).length = bound + ((binds f).length + 1) := by omega
      simp [text, ih, String.append_assoc, hnext]

lemma join_cons_cons (separator : String) (f g : Fragment) (fs : List Fragment) :
    join separator (f :: g :: fs) = f ++ .sql separator :: join separator (g :: fs) := by
  rw [join]
  simp

lemma isSome_combine (joiner : String) (fs : List Fragment) :
    (combine joiner fs).isSome = !fs.isEmpty := by
  match fs with
  | [] => rfl
  | [_] => rfl
  | _ :: _ :: _ => rfl

end FacetSearch.Fragment
