import FacetSearch.Pattern.Automaton.Size

/-!
# Automata of words

The states that match one of some words, which share the states of what they begin with. Where
a word ends, the words after it in the list do not share states with those before it.
-/

namespace FacetSearch.Pattern

/-- What has been seen of a list of words. -/
structure WordGroups where
  /-- The words between those that end here, the last ones first. -/
  complete : List (List (List Nat)) := []
  current : List (List Nat) := []
  /-- Whether a word that does not end here has been seen. -/
  goesOn : Bool := false

/-- One more word. That words end here counts once if no words go on. -/
def WordGroups.step (g : WordGroups) (word : List Nat) : WordGroups :=
  if word.isEmpty then
    if !g.goesOn && !g.complete.isEmpty then g
    else { g with complete := g.current.reverse :: g.complete, current := [] }
  else { g with current := word :: g.current, goesOn := true }

/-- The groups of words that go on, between the words that end. -/
def wordGroups (words : List (List Nat)) : List (List (List Nat)) :=
  let g := words.foldl WordGroups.step {}
  (g.current.reverse :: g.complete).reverse

/-- The first bytes of words, each with what follows it. -/
def byFirstByte (words : List (List Nat)) : List (Nat × List (List Nat)) :=
  (words.filterMap List.head?).eraseDups.map fun b =>
    (b, (words.filter fun w => w.head? == some b).map List.tail)

namespace Build

/-- The states where words begin that are no longer than `length`. A choice leads to one state
for each group of words that go on, and to the end between them. -/
def wordStart : (length : Nat) → List (List Nat) → Build Unit
  | 0, _ => pure ()
  | length + 1, words => do
    let groups := wordGroups words
    groups.forM fun group => do
      let starts := byFirstByte group
      starts.forM fun (_, tails) =>
        if tails.all List.isEmpty then pure () else wordStart length tails
      if starts.length = 1 then
        let _ ← state 0
      else if 1 < starts.length then
        let _ ← state starts.length
    let _ ← state 0
    alternatives ((groups.filter fun g => !g.isEmpty).length + (groups.length - 1))

/-- The states that match one of some words. -/
def words (backward : Bool) (ws : List (List Nat)) : Build Unit := do
  let ws := if backward then ws.map List.reverse else ws
  let _ ← state 0
  wordStart (ws.foldl (fun n w => max n w.length) 0) ws

end Build

end FacetSearch.Pattern
