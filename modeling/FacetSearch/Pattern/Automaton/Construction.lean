import FacetSearch.Pattern.Automaton.Characters
import FacetSearch.Pattern.Automaton.Words
import FacetSearch.Pattern.Expression

/-!
# Construction of automata

The automaton of an expression, as far as its size goes. Parts are built one after the other
and then joined. A part may end in a choice, to which whatever follows is one more alternative.
-/

namespace FacetSearch.Pattern

open Unicode

namespace Build

/-- Joins a part to what follows it; `open` tells whether the part ends in a choice. -/
def join (isOpen : Bool) : Build Unit := if isOpen then alternatives 1 else pure ()

/-- A part that is built once more and joined to the one before it, so many times. -/
def again (part : Build Bool) : Nat → Bool → Build Bool
  | 0, isOpen => pure isOpen
  | n + 1, isOpen => do
    let next ← part
    join isOpen
    again part n next

/-- A part so many times in a row. -/
def times (part : Build Bool) : Nat → Build Bool
  | 0 => do
    let _ ← state 0
    return false
  | n + 1 => do again part n (← part)

/-- A part at least so many times in a row. What may match the empty text has to be left
before it is tried again. -/
def atLeast (part : Build Bool) (mayBeEmpty : Bool) : Nat → Build Bool
  | 0 => do
    if mayBeEmpty then
      join (← part)
      let _ ← state 0
      let _ ← state 0
      let _ ← state 0
      alternatives 4
      return false
    else
      let _ ← state 0
      join (← part)
      alternatives 1
      return true
  | 1 => do
    join (← part)
    let _ ← state 0
    alternatives 1
    return true
  | n + 2 => do
    let isOpen ← times part (n + 1)
    let last ← part
    let _ ← state 0
    join isOpen
    join last
    alternatives 1
    return true

/-- A part that may be left out each of so many times. -/
def optional (part : Build Bool) : Nat → Bool → Build Bool
  | 0, isOpen => pure isOpen
  | n + 1, isOpen => do
    let _ ← state 0
    let next ← part
    join isOpen
    alternatives 2
    optional part n next

/-- A part between `least` and `most` times in a row. -/
def between (part : Build Bool) (least most : Nat) : Build Bool := do
  if least = 0 ∧ most = 1 then
    let _ ← state 0
    join (← part)
    let _ ← state 0
    alternatives 2
    return false
  else if most ≤ least then times part least
  else
    let isOpen ← times part least
    let _ ← state 0
    join (← optional part (most - least) isOpen)
    return false

/-- Literal bytes, a state for each. -/
def bytes : List Nat → Build Unit
  | [] => pure ()
  | _ :: bs => do
    let _ ← state 0
    bytes bs

/-- The words that branches are if all of them are literals. -/
def words? : List Expression → Option (List (List Nat))
  | [] => some []
  | .literal bytes :: es => (words? es).map (bytes :: ·)
  | _ :: _ => none

mutual

/-- The automaton of an expression; tells whether it ends in a choice. The text is read
backwards or forwards, and only the latter keeps account of captures. -/
def ofExpression (backward : Bool) : Expression → Build Bool
  | .empty | .place _ => do
    let _ ← state 0
    return false
  | .literal bs => do
    bytes bs
    return false
  | .oneOf unicode s => do
    oneOf backward (byteSequences unicode s)
    return false
  | .repetition least most _ body =>
    let part := ofExpression backward body
    match most with
    | none => atLeast part (body.leastLength?.getD 0 == 0) least
    | some most => between part least most
  | .capture body => do
    if backward then ofExpression backward body
    else
      let _ ← state 0
      join (← ofExpression backward body)
      let _ ← state 0
      return false
  | .concatenation parts => row backward parts
  | .alternation branches => do
    match words? branches with
    | some ws => words backward ws
    | none => choice backward branches
    return false

/-- Expressions in a row, of which the last one comes first when the text is read backwards. -/
def row (backward : Bool) : List Expression → Build Bool
  | [] => do
    let _ ← state 0
    return false
  | [e] => ofExpression backward e
  | e :: es => do
    if backward then
      let isOpen ← row backward es
      let next ← ofExpression backward e
      join isOpen
      return next
    else
      let isOpen ← ofExpression backward e
      let next ← row backward es
      join isOpen
      return next

/-- A choice between expressions. Its own states are built after two of these. -/
def choice (backward : Bool) : List Expression → Build Unit
  | [] => pure ()
  | [e] => do join (← ofExpression backward e)
  | e :: f :: es => do
    let first ← ofExpression backward e
    let second ← ofExpression backward f
    let _ ← state 0
    let _ ← state 0
    join first
    join second
    alternatives 2
    branches backward es

/-- Further branches of a choice. -/
def branches (backward : Bool) : List Expression → Build Unit
  | [] => pure ()
  | e :: es => do
    join (← ofExpression backward e)
    alternatives 1
    branches backward es

end

/-- The states before an automaton, with which it passes over text before a match. It does not
if all matches are at the start of what is read. -/
def start (anchored : Bool) : Build Unit := do
  if anchored then
    let _ ← state 0
  else
    let _ ← state 0
    let _ ← state 0
    let _ ← state 1
    alternatives 2

/-- The automaton that reads forwards, with states for the ends of the match and to report it. -/
def forward (e : Expression) : Build Unit := do
  start e.startsText
  let _ ← ofExpression false (.capture e)
  let _ ← state 0

/-- The automaton that reads backwards. -/
def backward (e : Expression) : Build Unit := do
  start e.endsText
  join (← ofExpression true e)
  let _ ← state 0

end Build

/-- Lists of so many words are looked for without an automaton. -/
def manyWords : Nat := 3000

/-- An expression has automata, or needs none. -/
def Expression.isFeasible : Expression → Bool
  | .alternation branches =>
    manyWords ≤ branches.length && (Build.words? branches).isSome ||
      (Build.forward (.alternation branches)).fits && (Build.backward (.alternation branches)).fits
  | e => (Build.forward e).fits && (Build.backward e).fits

end FacetSearch.Pattern
