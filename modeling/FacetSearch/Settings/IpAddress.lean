import FacetSearch.Text.Hex

/-!
# IP addresses

Reading and writing of addresses in both versions, and the address to listen on.
-/

namespace FacetSearch

inductive IpAddress where
  /-- Four bytes. -/
  | v4 (bytes : List Nat)
  /-- Eight groups of sixteen bits. -/
  | v6 (groups : List Nat)
deriving DecidableEq, Repr

namespace IpAddress

/-- A decimal byte without leading zeros. -/
def byte? (cs : List Char) : Option Nat :=
  match cs with
  | [] => none
  | '0' :: _ :: _ => none
  | _ =>
    if cs.length ≤ 3 ∧ cs.all Char.isDigit then
      let n := cs.foldl (fun n c => n * 10 + (c.toNat - '0'.toNat)) 0
      if n < 256 then some n else none
    else none

def v4Bytes? (cs : List Char) : Option (List Nat) :=
  let parts := cs.splitOn '.'
  if parts.length = 4 then parts.mapM byte? else none

/-- One to four hexadecimal digits. -/
def group? (cs : List Char) : Option Nat :=
  if cs.length = 0 ∨ 4 < cs.length then none else Text.hexNumber? cs

/-- Groups separated by colons. The last two may be written as an address of version 4 if
`mixed` holds. -/
def groups? (mixed : Bool) : List (List Char) → Option (List Nat)
  | [] => some []
  | [part] =>
    match if mixed then v4Bytes? part else none with
    | some [a, b, c, d] => some [a * 256 + b, c * 256 + d]
    | _ => (group? part).map ([·])
  | part :: rest => do
    let g ← group? part
    return g :: (← groups? mixed rest)

/-- The groups of a text that may be empty. -/
def groupsOf? (mixed : Bool) (cs : List Char) : Option (List Nat) :=
  if cs.isEmpty then some [] else groups? mixed (cs.splitOn ':')

/-- The text before and after the first `::`. -/
def splitGap? : List Char → Option (List Char × List Char)
  | ':' :: ':' :: rest => some ([], rest)
  | c :: rest => (splitGap? rest).map fun (before, after) => (c :: before, after)
  | [] => none

/-- The eight groups of an address. A gap `::` stands for one zero group at least. -/
def v6Groups? (cs : List Char) : Option (List Nat) :=
  match splitGap? cs with
  | none => (groupsOf? true cs).filter (·.length = 8)
  | some (before, after) => do
    let head ← groupsOf? false before
    let tail ← groupsOf? true after
    if head.length + tail.length ≤ 7 then
      return head ++ List.replicate (8 - head.length - tail.length) 0 ++ tail
    else none

def parse? (s : String) : Option IpAddress :=
  match v4Bytes? s.toList with
  | some bytes => some (v4 bytes)
  | none => (v6Groups? s.toList).map v6

def v4Text (bytes : List Nat) : String := ".".intercalate (bytes.map toString)

def groupsText (groups : List Nat) : String :=
  ":".intercalate (groups.map fun g => String.ofList (Nat.toDigits 16 g))

/-- The length of the run of zeros at the front. -/
def zeroRun (groups : List Nat) : Nat := (groups.takeWhile (· = 0)).length

/-- The start and length of the first longest run of zeros. -/
def longestZeroRun (groups : List Nat) : Nat × Nat :=
  (List.range groups.length).foldl (fun best start =>
    let run := zeroRun (groups.drop start)
    if best.2 < run then (start, run) else best) (0, 0)

/-- The groups with the first longest run of several zeros left out. -/
def v6Text (groups : List Nat) : String :=
  match groups with
  | [0, 0, 0, 0, 0, 0xFFFF, high, low] =>
    "::ffff:" ++ v4Text [high / 256, high % 256, low / 256, low % 256]
  | _ =>
    let (start, run) := longestZeroRun groups
    if 1 < run then groupsText (groups.take start) ++ "::" ++ groupsText (groups.drop (start + run))
    else groupsText groups

/-- The address with a port behind it. -/
def withPort (port : Nat) : IpAddress → String
  | v4 bytes => v4Text bytes ++ ":" ++ toString port
  | v6 groups => "[" ++ v6Text groups ++ "]:" ++ toString port

end IpAddress

end FacetSearch
