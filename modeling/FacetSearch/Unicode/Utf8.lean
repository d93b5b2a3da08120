/-!
# UTF-8

The bytes of characters, and the sequences of runs of bytes that a run of characters amounts
to: a character is in the run when its bytes are, one by one, in the runs of a sequence.
-/

namespace FacetSearch.Unicode

/-- A run of bytes. -/
structure ByteRun where
  first : Nat
  last : Nat
deriving DecidableEq, Repr

namespace Utf8

/-- The bytes of a code point. -/
def encode (n : Nat) : List Nat :=
  if n < 0x80 then [n]
  else if n < 0x800 then [0xC0 + n / 0x40, 0x80 + n % 0x40]
  else if n < 0x10000 then [0xE0 + n / 0x1000, 0x80 + n / 0x40 % 0x40, 0x80 + n % 0x40]
  else [0xF0 + n / 0x40000, 0x80 + n / 0x1000 % 0x40, 0x80 + n / 0x40 % 0x40, 0x80 + n % 0x40]

/-- The first code points of each length but the shortest. -/
def lengthStarts : List Nat := [0x80, 0x800, 0x10000]

/-- How many code points have all bytes but the last one, two or three in common. -/
def blockSizes : List Nat := [0x40, 0x1000, 0x40000]

/-- Where to cut a run that begins or ends within a block and is not within one block. -/
def blockCut? (a b size : Nat) : Option Nat :=
  if a / size = b / size then none
  else if a % size ≠ 0 then some ((a / size + 1) * size)
  else if b % size ≠ size - 1 then some (b / size * size)
  else none

/-- The character before which a run is cut because the characters on both sides do not differ
byte by byte. -/
def cut? (a b : Nat) : Option Nat :=
  (lengthStarts.find? fun m => a < m && m ≤ b).or
    (if b < 0x80 then none else blockSizes.findSome? (blockCut? a b))

/-- The sequences of a run without surrogates. -/
def sequencesWithin (a b : Nat) : List (List ByteRun) :=
  match cut? a b with
  | some m =>
    if a < m ∧ m ≤ b then sequencesWithin a (m - 1) ++ sequencesWithin m b
    else [List.zipWith ByteRun.mk (encode a) (encode b)]
  | none => [List.zipWith ByteRun.mk (encode a) (encode b)]
termination_by b - a

/-- The sequences of a run, which passes over the surrogates. -/
def sequences (run : Nat × Nat) : List (List ByteRun) :=
  if run.1 < 0xE000 ∧ 0xD7FF < run.2 then
    sequencesWithin run.1 0xD7FF ++ sequencesWithin 0xE000 run.2
  else sequencesWithin run.1 run.2

end Utf8

end FacetSearch.Unicode
