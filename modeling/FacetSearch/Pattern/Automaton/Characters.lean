import FacetSearch.Pattern.Automaton.Size
import FacetSearch.Unicode.RangeSet
import FacetSearch.Unicode.Utf8

/-!
# Automata of sets of characters

The states that match the bytes of one character of a set, read forwards or backwards. All of
these automata end in one state.
-/

namespace FacetSearch.Pattern

open Unicode

/-- The sequences of runs of bytes of a set of characters, or of single bytes. -/
def byteSequences (unicode : Bool) (s : RangeSet) : List (List ByteRun) :=
  if unicode then s.runs.flatMap Utf8.sequences else s.runs.map fun r => [⟨r.1, r.2⟩]

/-- Neighbouring sequences by their first runs, with what follows these. -/
def byFirstRun : List (List ByteRun) → List (ByteRun × List (List ByteRun))
  | [] => []
  | [] :: rest => byFirstRun rest
  | (r :: tail) :: rest =>
    match byFirstRun rest with
    | (q, tails) :: groups =>
      if r = q then (q, tail :: tails) :: groups else (r, [tail]) :: (q, tails) :: groups
    | [] => [(r, [tail])]

namespace Build

/-- The states that read sequences forwards, where sequences end alike whenever they can. The
state `last` comes after all of them, and a character has no more bytes than `length`. -/
def forwards (last : Nat) : (length : Nat) → List (List ByteRun) → SharedBuild Nat
  | 0, _ => pure last
  | length + 1, sequences => do
    let groups := byFirstRun sequences
    let transitions ← groups.mapM fun (r, tails) => do
      let next ← if tails.all List.isEmpty then pure last else forwards last length tails
      return [r.first, r.last, next]
    SharedBuild.state transitions.flatten groups.length

/-- The states that read one sequence backwards, up to the state `last`. -/
def backwards (last : Nat) : List ByteRun → SharedBuild Nat
  | [] => pure last
  | r :: rs => do backwards (← SharedBuild.state [last, r.first, r.last] 0) rs

/-- The states that match one of some characters. -/
def oneOf (backward : Bool) (sequences : List (List ByteRun)) : Build Unit := do
  if sequences.all fun s => s.length = 1 then
    let _ ← state 0
    let _ ← state sequences.length
  else if backward then
    let _ ← state 0
    let last ← state 0
    let _ ← ((sequences.forM fun s => do
      let _ ← backwards last s
      Build.alternatives 1) : SharedBuild Unit).run { slots := 1000 }
  else
    let last ← state 0
    let _ ← (forwards last 4 sequences).run { slots := 10000 }

end Build

end FacetSearch.Pattern
