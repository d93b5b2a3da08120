/-!
# SQL fragments

A fragment is SQL text with the values that callers give kept apart from it. Written out, a
value leaves only its number in the text: the first value is `$1`, the next one `$2`, and so
on from left to right.
-/

namespace FacetSearch

/-- A value bound to a numbered place of a statement. -/
inductive Bind where
  | text (value : String)
  | textArray (values : List String)
  | bigint (value : Int)
  | bigintArray (values : List Int)
deriving DecidableEq, Repr

/-- SQL text with numbered places, and the values for them in order. -/
structure Statement where
  sql : String
  binds : List Bind
deriving DecidableEq, Repr

/-- A piece of SQL: literal text, or the place of a value. -/
inductive Piece where
  | sql (text : String)
  | value (bind : Bind)
deriving DecidableEq, Repr

abbrev Fragment := List Piece

namespace Fragment

/-- The values of a fragment, in order. -/
def binds : Fragment → List Bind
  | [] => []
  | .sql _ :: rest => binds rest
  | .value b :: rest => b :: binds rest

/-- The text of a fragment when `bound` values come before it in the statement. -/
def text (bound : Nat) : Fragment → String
  | [] => ""
  | .sql s :: rest => s ++ text bound rest
  | .value _ :: rest => "$" ++ toString (bound + 1) ++ text (bound + 1) rest

/-- The statement that consists of a fragment. -/
def statement (f : Fragment) : Statement := ⟨f.text 0, f.binds⟩

/-- The fragments with `separator` between them. -/
def join (separator : String) : List Fragment → Fragment
  | [] => []
  | [f] => f
  | f :: rest => f ++ .sql separator :: join separator rest

/-- The fragments as one operand: nothing if there are none, one on its own, and several in
parentheses with `joiner` between them. -/
def combine (joiner : String) : List Fragment → Option Fragment
  | [] => none
  | [f] => some f
  | fs => some (.sql "(" :: join joiner fs ++ [.sql ")"])

end Fragment

end FacetSearch
