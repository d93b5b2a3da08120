import FacetSearch.Json.Basic
import FacetSearch.Text.Integer
import FacetSearch.Text.LowerCase

/-!
# Paths of keys

A place in a tree of settings, written as `server.port` or `server.cors_origins[0]`, and what
becomes of a tree when a value is put there. Keys are compared in lower case. What is in the way
gives way: an object takes the place of anything in which a key is looked up, and an array that
of anything in which a position is.
-/

namespace FacetSearch.Settings

/-- One step into a tree. -/
inductive KeyStep where
  | member (key : String)
  /-- A position in an array; negative ones count from its end. -/
  | element (index : Int)
deriving DecidableEq, Repr

abbrev KeyPath := List KeyStep

namespace KeyPath

/-! ## Reading -/

def isKeyChar (c : Char) : Bool := c.isAlphanum || c == ' ' || c == '_' || c == '-'

def isIndexSpace (c : Char) : Bool := c == ' ' || c == '\t'

/-- The position that a text writes between brackets: digits that fit 64 bits, possibly after a
minus sign, with spaces and tabs around them. -/
def readIndex? (cs : List Char) : Option Int :=
  let cs := (cs.dropWhile isIndexSpace).reverse.dropWhile isIndexSpace
  match cs.reverse with
  | '+' :: _ => none
  | cs => Text.int64? (String.ofList cs)

/-- The steps after the first key. Every step takes a character at least. -/
def readSteps? : Nat → List Char → Option KeyPath
  | _, [] => some []
  | 0, _ :: _ => none
  | fuel + 1, '.' :: cs =>
    let key := cs.takeWhile isKeyChar
    if key.isEmpty then none
    else (readSteps? fuel (cs.dropWhile isKeyChar)).map (.member (String.ofList key) :: ·)
  | fuel + 1, '[' :: cs => do
    let index ← readIndex? (cs.takeWhile (· != ']'))
    match cs.dropWhile (· != ']') with
    | _ :: rest => return .element index :: (← readSteps? fuel rest)
    | [] => none
  | _ + 1, _ => none

/-- The path that a text writes. A text that writes none is a key as it stands. -/
def ofText (s : String) : KeyPath :=
  let cs := s.toList
  let key := cs.takeWhile isKeyChar
  match readSteps? cs.length (cs.dropWhile isKeyChar) with
  | some steps => if key.isEmpty then [.member s] else .member (String.ofList key) :: steps
  | none => [.member s]

end KeyPath

/-! ## Assigning -/

/-- The members of an object; other values have none. -/
def membersOf : Json → List (String × Json)
  | .object members => members
  | _ => []

/-- The items of an array; other values have none. -/
def itemsOf : Json → List Json
  | .array items => items
  | _ => []

mutual

/-- The tree with `value` merged in under a key of the root: an object key by key, anything
else as a whole. -/
def assign (value : Json) (key : String) (root : Json) : Json :=
  let key := Text.lowerCase key
  match value with
  | .object members =>
    let old := ((membersOf root).lookup key).getD (.object [])
    .object (Json.setMember key (assignAll members old) (membersOf root))
  | v => .object (Json.setMember key v (membersOf root))

def assignAll : List (String × Json) → Json → Json
  | [], root => root
  | (key, value) :: rest, root => assignAll rest (assign value key root)

end

/-- The place in a list of items that a position means. -/
def placeOf (index : Int) (items : List Json) : Nat :=
  (if index < 0 then items.length + index else index).toNat

/-- The items with enough nulls behind them that there is one at the place. -/
def padTo (place : Nat) (items : List Json) : List Json :=
  items ++ List.replicate (place + 1 - items.length) .null

/-- The tree with `value` put in at the end of a path: merged in under a key, but in place of
what is at a position. -/
def assignAt (value : Json) : KeyPath → Json → Json
  | [], _ => value
  | [.member key], root => assign value key root
  | .member key :: rest, root =>
    let key := Text.lowerCase key
    let old := ((membersOf root).lookup key).getD .null
    .object (Json.setMember key (assignAt value rest old) (membersOf root))
  | .element index :: rest, root =>
    let place := placeOf index (itemsOf root)
    .array ((padTo place (itemsOf root)).modify place (assignAt value rest))

end FacetSearch.Settings
