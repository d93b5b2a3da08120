import Std.Data.HashMap

/-!
# Sizes of automata

An automaton is counted state by state while it is built, and is given up once it takes too much
memory. States are numbered in the order in which they are built.
-/

namespace FacetSearch.Pattern

/-- What the states of an automaton take so far. -/
structure Size where
  states : Nat := 0
  bytes : Nat := 0

/-- An automaton takes no more memory than this. -/
def maxBytes : Nat := 10 * 1024 * 1024

/-- The memory of a state. -/
def stateBytes : Nat := 32

/-- The memory of a transition, in a state that has a list of them. -/
def transitionBytes : Nat := 8

/-- The memory of an alternative, in a state that is a choice between several. -/
def alternativeBytes : Nat := 4

/-- A step in building an automaton, which fails if the automaton becomes too large. -/
abbrev Build := StateT Size Option

namespace Build

/-- Takes memory. -/
def take (bytes : Nat) : Build Unit := fun z =>
  if maxBytes < z.bytes + bytes then none else some ((), { z with bytes := z.bytes + bytes })

/-- A state with some transitions in a list, or none; gives its number. -/
def state (transitions : Nat) : Build Nat := fun z =>
  let bytes := z.bytes + stateBytes + transitions * transitionBytes
  if maxBytes < bytes then none else some (z.states, ⟨z.states + 1, bytes⟩)

/-- Gives alternatives to a choice. -/
def alternatives (n : Nat) : Build Unit := take (n * alternativeBytes)

/-- Whether an automaton that is built this way is small enough. -/
def fits (build : Build α) : Bool := (build {}).isSome

end Build

/-! ## States that are used again -/

/-- A table of states that have been built, each under a key that says what it is. A key has one
slot in the table, and a later one drives out an earlier one with the same slot. -/
structure StateTable where
  slots : Nat
  states : Std.HashMap Nat (List Nat × Nat) := {}

namespace StateTable

/-- One step of the hash of a key. -/
def mix (h : UInt64) (n : Nat) : UInt64 := (h ^^^ n.toUInt64) * 1099511628211

/-- The slot of a key. -/
def slot (t : StateTable) (key : List Nat) : Nat :=
  (key.foldl mix 14695981039346656037).toNat % t.slots

end StateTable

/-- A step in building a part of an automaton that uses states again. -/
abbrev SharedBuild := StateT StateTable Build

/-- The state of a key with some transitions in a list, built unless the table has it. -/
def SharedBuild.state (key : List Nat) (transitions : Nat) : SharedBuild Nat := fun t =>
  let slot := t.slot key
  let new : Build (Nat × StateTable) := do
    let number ← Build.state transitions
    return (number, { t with states := t.states.insert slot (key, number) })
  match t.states[slot]? with
  | some (k, number) => if k = key then pure (number, t) else new
  | none => new

end FacetSearch.Pattern
