import FacetSearch.Text.Hex

/-!
# Sets of code points

Sets of numbers as runs from a first to a last number. The operations on them keep the runs in
ascending order and apart from each other. As code points the numbers step over the surrogates,
which are no characters.
-/

namespace FacetSearch.Unicode

/-- The greatest code point. -/
def maxCodePoint : Nat := 0x10FFFF

structure RangeSet where
  runs : List (Nat × Nat)
deriving DecidableEq, Repr

namespace RangeSet

def empty : RangeSet := ⟨[]⟩

/-! ## Reading -/

/-- What has been read of a list of runs. -/
structure Listing where
  /-- The complete runs, the last one first. -/
  complete : List (Nat × Nat) := []
  /-- The first number of a run of which the last one is being read. -/
  first : Option Nat := none
  number : Nat := 0

namespace Listing

def finish (l : Listing) : List (Nat × Nat) :=
  (l.first.getD l.number, l.number) :: l.complete

def step (l : Listing) (c : Char) : Listing :=
  if c = ' ' then { complete := l.finish }
  else if c = '-' then { l with first := some l.number, number := 0 }
  else { l with number := l.number * 16 + (Text.hexValue? c).getD 0 }

end Listing

/-- The runs that a line lists in hexadecimal digits: single numbers and, with a hyphen between
their ends, runs of numbers, with blanks between them. -/
def runsOfHex (line : String) : List (Nat × Nat) :=
  (line.toList.foldl Listing.step {}).finish.reverse

/-- The set of the runs that lines list in ascending order. -/
def ofHex (lines : List String) : RangeSet := ⟨lines.flatMap runsOfHex⟩

/-! ## Operations -/

/-- The runs after one from `a` to `b`, with those joined that overlap or touch. -/
def joinFrom (a b : Nat) : List (Nat × Nat) → List (Nat × Nat)
  | [] => [(a, b)]
  | (c, d) :: rest => if c ≤ b + 1 then joinFrom a (max b d) rest else (a, b) :: joinFrom c d rest

/-- The set of runs that are in ascending order but may overlap or touch. -/
def join : List (Nat × Nat) → RangeSet
  | [] => empty
  | (a, b) :: rest => ⟨joinFrom a b rest⟩

def union (s t : RangeSet) : RangeSet := join (s.runs.merge t.runs fun r q => r.1 ≤ q.1)

def unions (sets : List RangeSet) : RangeSet := sets.foldl union empty

/-- The set of some numbers. -/
def ofList (numbers : List Nat) : RangeSet :=
  join ((numbers.mergeSort (· ≤ ·)).map fun n => (n, n))

/-- The parts that runs have in common. -/
def commonRuns : List (Nat × Nat) → List (Nat × Nat) → List (Nat × Nat)
  | (a, b) :: s, (c, d) :: t =>
    let rest := if b < d then commonRuns s ((c, d) :: t) else commonRuns ((a, b) :: s) t
    if max a c ≤ min b d then (max a c, min b d) :: rest else rest
  | _, _ => []
termination_by s t => s.length + t.length

def intersection (s t : RangeSet) : RangeSet := ⟨commonRuns s.runs t.runs⟩

/-- The number before another one. -/
def previous (n : Nat) : Nat := if n = 0xE000 then 0xD7FF else n - 1

/-- The number after another one. -/
def next (n : Nat) : Nat := if n = 0xD7FF then 0xE000 else n + 1

/-- What other runs leave of runs. -/
def remainingRuns : List (Nat × Nat) → List (Nat × Nat) → List (Nat × Nat)
  | [], _ => []
  | s, [] => s
  | (a, b) :: s, (c, d) :: t =>
    if d < a then remainingRuns ((a, b) :: s) t
    else if b < c then (a, b) :: remainingRuns s ((c, d) :: t)
    else
      let rest :=
        if d < b then remainingRuns ((next d, b) :: s) t else remainingRuns s ((c, d) :: t)
      if a < c then (a, previous c) :: rest else rest
termination_by s t => s.length + t.length

def difference (s t : RangeSet) : RangeSet := ⟨remainingRuns s.runs t.runs⟩

/-- What is in exactly one of two sets. -/
def symmetricDifference (s t : RangeSet) : RangeSet :=
  (s.union t).difference (s.intersection t)

/-- The gaps up to `last` after a run that ends with `b`. A gap of nothing but surrogates is
taken to be the characters on both sides of them. -/
def gapsAfter (last b : Nat) : List (Nat × Nat) → List (Nat × Nat)
  | [] => if b < last then [(next b, last)] else []
  | (c, d) :: rest =>
    (min (next b) (previous c), max (next b) (previous c)) :: gapsAfter last d rest

/-- The numbers up to `last` that are not in the set. -/
def complement (last : Nat) (s : RangeSet) : RangeSet :=
  match s.runs with
  | [] => ⟨[(0, last)]⟩
  | (a, b) :: rest =>
    ⟨if 0 < a then (0, previous a) :: gapsAfter last b rest else gapsAfter last b rest⟩

/-- Whether all numbers of the set are ASCII. -/
def isAscii (s : RangeSet) : Bool := s.runs.all fun r => r.2 < 0x80

end RangeSet

/-- A set of characters with the names that it has, in lower case and without separators. -/
structure NamedSet where
  names : List String
  set : RangeSet

namespace NamedSet

def isNamed (s : NamedSet) (name : String) : Bool := s.names.contains name

/-- The set of a name. -/
def find? (sets : List NamedSet) (name : String) : Option RangeSet :=
  (sets.find? fun s => s.isNamed name).map NamedSet.set

end NamedSet

end FacetSearch.Unicode
