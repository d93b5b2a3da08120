import Mathlib.Tactic.Lemma

/-!
# Truth values of SQL

A comparison with NULL is neither true nor false. A row is selected only where the condition is
true.
-/

namespace FacetSearch

inductive Truth where
  | yes
  | no
  | unknown
deriving DecidableEq, Repr

namespace Truth

def ofBool : Bool → Truth
  | true => yes
  | false => no

def not : Truth → Truth
  | yes => no
  | no => yes
  | unknown => unknown

def and : Truth → Truth → Truth
  | no, _ => no
  | _, no => no
  | yes, yes => yes
  | _, _ => unknown

def or : Truth → Truth → Truth
  | yes, _ => yes
  | _, yes => yes
  | no, no => no
  | _, _ => unknown

/-- The conjunction of truth values, true if there are none. -/
def all : List Truth → Truth
  | [] => yes
  | t :: ts => t.and (all ts)

/-- The disjunction of truth values, false if there are none. -/
def any : List Truth → Truth
  | [] => no
  | t :: ts => t.or (any ts)

/-- Whether a row is kept by a condition, where a missing one keeps all rows. -/
def keeps : Option Truth → Bool
  | none => true
  | some t => t == yes

@[simp] lemma ofBool_eq_yes {b : Bool} : ofBool b = yes ↔ b = true := by
  cases b <;> decide

@[simp] lemma ofBool_eq_no {b : Bool} : ofBool b = no ↔ b = false := by
  cases b <;> decide

@[simp] lemma not_eq_yes {t : Truth} : t.not = yes ↔ t = no := by
  cases t <;> decide

@[simp] lemma and_eq_yes {t u : Truth} : t.and u = yes ↔ t = yes ∧ u = yes := by
  cases t <;> cases u <;> decide

lemma all_eq_yes {ts : List Truth} : all ts = yes ↔ ∀ t ∈ ts, t = yes := by
  induction ts with
  | nil => simp [all]
  | cons t ts ih => simp [all, ih]

lemma any_map_ofBool {α : Type} (f : α → Bool) (as : List α) :
    any (as.map fun a => ofBool (f a)) = ofBool (as.any f) := by
  induction as with
  | nil => rfl
  | cons a as ih =>
    rw [List.map_cons, any, ih, List.any_cons]
    cases f a <;> cases as.any f <;> rfl

@[simp] lemma keeps_none : keeps none = true := rfl

@[simp] lemma keeps_some {t : Truth} : keeps (some t) = true ↔ t = yes := by
  cases t <;> decide

end Truth

end FacetSearch
