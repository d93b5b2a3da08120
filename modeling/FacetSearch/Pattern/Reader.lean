import FacetSearch.Pattern.Brackets
import FacetSearch.Text.Alphabetic

/-!
# Reading regular expressions

The reader goes through the pattern once, with the groups that it is in on a stack. There are
no look-around conditions, no back references and no octal escapes, names of groups are
unique, and every repetition has something to repeat.
-/

namespace FacetSearch.Pattern

/-! ## Groups -/

def Mode.ofLetter? (c : Char) : Option Mode :=
  if c = 'i' then some .ignoreCase
  else if c = 'm' then some .multiLine
  else if c = 's' then some .dotMatchesNewLine
  else if c = 'U' then some .swapGreed
  else if c = 'u' then some .unicode
  else if c = 'R' then some .carriageReturn
  else if c = 'x' then some .verbose
  else none

/-- The modes that letters switch on or, after a hyphen, off. A mode or a second hyphen must
not be repeated, and a letter follows the hyphen. -/
def readModes (off : Bool) (seen : ModeChange) : List Char → Option ModeChange
  | [] => some seen
  | c :: cs =>
    if c = '-' then if off || cs.isEmpty then none else readModes true seen cs
    else do
      let mode ← Mode.ofLetter? c
      if seen.any fun m => m.1 == mode then none
      else readModes off (seen ++ [(mode, !off)]) cs

/-- The verbose mode after a change. -/
def ModeChange.verbose (change : ModeChange) (before : Bool) : Bool :=
  (change.lookup .verbose).getD before

/-- A name begins with a letter or an underscore; digits, points and brackets may follow. -/
def isGroupName : List Char → Bool
  | [] => false
  | c :: cs =>
    (c == '_' || Text.isAlphabetic c) &&
      cs.all fun c => ['_', '.', '[', ']'].contains c || Text.isAlphanumeric c

/-- What an opening parenthesis begins. -/
inductive Opening where
  /-- A change of modes for the rest of the group around it. -/
  | modes (change : ModeChange)
  | capturing (name : Option (List Char))
  | plain (change : ModeChange)

/-- The name of a group before a closing angle bracket. -/
def readGroupName (cs : List Char) : Option (Opening × List Char) :=
  let name := cs.takeWhile (· != '>')
  match cs.dropWhile (· != '>') with
  | _ :: rest => if isGroupName name then some (.capturing (some name), rest) else none
  | [] => none

/-- The modes before a colon or a closing parenthesis. -/
def readGroupModes (cs : List Char) : Option (Opening × List Char) := do
  let isLetter (c : Char) : Bool := c != ':' && c != ')'
  let change ← readModes false [] (cs.takeWhile isLetter)
  match cs.dropWhile isLetter with
  | ':' :: rest => some (.plain change, rest)
  | _ :: rest => if change.isEmpty then none else some (.modes change, rest)
  | [] => none

def readOpening (verbose : Bool) (cs : List Char) : Option (Opening × List Char) :=
  match skip verbose cs with
  | '?' :: '<' :: '=' :: _ | '?' :: '<' :: '!' :: _ => none
  | '?' :: 'P' :: '<' :: rest | '?' :: '<' :: rest => readGroupName rest
  | '?' :: rest => readGroupModes rest
  | rest => some (.capturing none, rest)

/-! ## Repetitions -/

/-- A count of repetitions: digits between white space, of a number that fits 32 bits. -/
def readCount? (cs : List Char) : Option Nat :=
  let digits := Text.trimChars cs
  if digits.isEmpty || !digits.all Char.isDigit then none
  else
    let n := digits.foldl (fun n c => n * 10 + (c.toNat - '0'.toNat)) 0
    if n < 0x100000000 then some n else none

/-- The least and the greatest number of repetitions that the text between braces asks for. -/
def readCounts? (cs : List Char) : Option (Nat × Option Nat) := do
  let least ← readCount? (cs.takeWhile (· != ','))
  match cs.dropWhile (· != ',') with
  | [] => some (least, some least)
  | [_] => some (least, none)
  | _ :: greatest => do
    let most ← readCount? greatest
    if least ≤ most then some (least, some most) else none

/-- How an operator repeats what precedes it. -/
structure Repeat where
  least : Nat
  most : Option Nat
  greedy : Bool

/-- A repetition, which a question mark after it makes lazy. -/
def readGreed (least : Nat) (most : Option Nat) : List Char → Repeat × List Char
  | '?' :: rest => (⟨least, most, false⟩, rest)
  | cs => (⟨least, most, true⟩, cs)

/-- The repetition that the operator `c` asks for. -/
def readRepetition (verbose : Bool) (c : Char) (rest : List Char) :
    Option (Repeat × List Char) :=
  if c = '?' then some (readGreed 0 (some 1) rest)
  else if c = '*' then some (readGreed 0 none rest)
  else if c = '+' then some (readGreed 1 none rest)
  else do
    let (inner, rest) ← untilBrace verbose false rest
    let (least, most) ← readCounts? inner
    return readGreed least most (skip verbose rest)

/-! ## Patterns -/

/-- The alternatives of a group so far. -/
structure Alternatives where
  /-- The complete alternatives, the last one first. -/
  complete : List Node := []
  /-- The parts of the last alternative, the last one first. -/
  parts : List Node := []

namespace Alternatives

def finish (a : Alternatives) : Node :=
  Node.ofBranches (Node.ofParts a.parts.reverse :: a.complete).reverse

def add (a : Alternatives) (n : Node) : Alternatives := { a with parts := n :: a.parts }

def separate (a : Alternatives) : Alternatives := ⟨Node.ofParts a.parts.reverse :: a.complete, []⟩

/-- Repeats the last part. A change of modes cannot be repeated. -/
def repeatLast (a : Alternatives) (r : Repeat) : Option Alternatives :=
  match a.parts with
  | [] | .modes _ :: _ => none
  | part :: parts => some { a with parts := .repetition r.least r.most r.greedy part :: parts }

end Alternatives

/-- A group that is not closed yet, with what precedes it in the group around it. -/
structure OpenGroup where
  around : Alternatives
  captures : Bool
  change : ModeChange
  /-- Whether the pattern around it is verbose. -/
  verbose : Bool

structure Reader where
  current : Alternatives := {}
  groups : List OpenGroup := []
  names : List (List Char) := []
  verbose : Bool := false

namespace Reader

def add (r : Reader) (n : Node) : Reader := { r with current := r.current.add n }

/-- Goes into a group. -/
def enter (r : Reader) (captures : Bool) (change : ModeChange) : Reader :=
  { r with
    current := {}
    groups := ⟨r.current, captures, change, r.verbose⟩ :: r.groups
    verbose := change.verbose r.verbose }

/-- Begins what an opening parenthesis announces; two groups of one name are refused. -/
def beginGroup (r : Reader) : Opening → Option Reader
  | .modes change => some { r.add (.modes change) with verbose := change.verbose r.verbose }
  | .plain change => some (r.enter false change)
  | .capturing none => some (r.enter true [])
  | .capturing (some name) =>
    if r.names.contains name then none
    else some { r.enter true [] with names := name :: r.names }

/-- Ends the innermost group. -/
def close (r : Reader) : Option Reader :=
  match r.groups with
  | [] => none
  | g :: groups =>
    some { r with
      current := g.around.add (.group g.captures g.change r.current.finish)
      groups := groups
      verbose := g.verbose }

/-- The pattern, if no group is open. -/
def finish (r : Reader) : Option Node := if r.groups.isEmpty then some r.current.finish else none

/-- Reads what begins with `c`. -/
def step (r : Reader) (c : Char) (rest : List Char) : Option (Reader × List Char) :=
  if c = '(' then do
    let (opening, rest) ← readOpening r.verbose rest
    return (← r.beginGroup opening, rest)
  else if c = ')' then r.close.map fun r => (r, rest)
  else if c = '|' then some ({ r with current := r.current.separate }, rest)
  else if c = '[' then do
    let (brackets, rest) ← readBrackets r.verbose rest
    return (r.add brackets, rest)
  else if ['?', '*', '+', '\x7b'].contains c then do
    let (rep, rest) ← readRepetition r.verbose c rest
    return ({ r with current := ← r.current.repeatLast rep }, rest)
  else if c = '\\' then do
    let (atom, rest) ← readEscape r.verbose rest
    return (r.add (.atom atom), rest)
  else if c = '.' then some (r.add (.atom .dot), rest)
  else if c = '^' then some (r.add (.atom (.assertion .lineStart)), rest)
  else if c = '$' then some (r.add (.atom (.assertion .lineEnd)), rest)
  else some (r.add (.atom (.literal ⟨c, false⟩)), rest)

def run (r : Reader) : Nat → List Char → Option Node
  | 0, _ => none
  | fuel + 1, cs =>
    match skip r.verbose cs with
    | [] => r.finish
    | c :: rest => do
      let (r, rest) ← r.step c rest
      r.run fuel rest

end Reader

/-- The regular expression that a text writes. Every step of the reader takes a character at
least. -/
def parse? (s : String) : Option Node :=
  let reader : Reader := {}
  reader.run (s.toList.length + 1) s.toList

end FacetSearch.Pattern
