import FacetSearch.Pattern.Escape

/-!
# Classes in brackets

The reader of classes such as `[^a-z&&[:alpha:]]`. It goes through the text once, with the
classes that it is in on a stack.
-/

namespace FacetSearch.Pattern

def AsciiClass.ofName? (name : String) : Option AsciiClass :=
  if name = "alnum" then some .alnum
  else if name = "alpha" then some .alpha
  else if name = "ascii" then some .ascii
  else if name = "blank" then some .blank
  else if name = "cntrl" then some .cntrl
  else if name = "digit" then some .digit
  else if name = "graph" then some .graph
  else if name = "lower" then some .lower
  else if name = "print" then some .print
  else if name = "punct" then some .punct
  else if name = "space" then some .space
  else if name = "upper" then some .upper
  else if name = "word" then some .word
  else if name = "xdigit" then some .xdigit
  else none

/-- A class that is not closed yet. -/
structure OpenBrackets where
  negated : Bool
  /-- The operation whose right side is being read, and its left side. -/
  pending : Option (SetOperator × CharSet) := none
  /-- The members so far, the last one first. -/
  items : List CharSetItem := []
  /-- Nothing but hyphens was read. -/
  atStart : Bool := true

namespace OpenBrackets

/-- The set that has been read. -/
def finish (b : OpenBrackets) : CharSet :=
  let right := .members b.items.reverse
  match b.pending with
  | some (op, left) => .combined op left right
  | none => right

def add (b : OpenBrackets) (item : CharSetItem) : OpenBrackets :=
  { b with items := item :: b.items, atStart := false }

/-- What has been read becomes the left side of an operation. -/
def combine (b : OpenBrackets) (op : SetOperator) : OpenBrackets :=
  { b with pending := some (op, b.finish), items := [], atStart := false }

end OpenBrackets

/-- What follows an opening bracket before the first member. -/
def openBrackets (verbose : Bool) (cs : List Char) : OpenBrackets × List Char :=
  match skip verbose cs with
  | '^' :: rest => ({ negated := true }, rest)
  | rest => ({ negated := false }, rest)

/-- A class of ASCII characters such as `[:alpha:]`, after its opening bracket. -/
def readAscii? (cs : List Char) : Option (CharSetItem × List Char) :=
  let named (negated : Bool) (cs : List Char) :=
    match cs.dropWhile (· != ':') with
    | ':' :: ']' :: rest =>
      (AsciiClass.ofName? (String.ofList (cs.takeWhile (· != ':')))).map fun c =>
        (CharSetItem.ascii negated c, rest)
    | _ => none
  match cs with
  | ':' :: '^' :: rest => named true rest
  | ':' :: rest => named false rest
  | _ => none

/-- A character or an escape within brackets, where only the backslash is special. -/
def readSetAtom (verbose : Bool) : List Char → Option (Atom × List Char)
  | [] => none
  | '\\' :: cs => readEscape verbose cs
  | c :: cs => some (.literal ⟨c, false⟩, cs)

/-- An atom as a member of a class. -/
def Atom.toItem? : Atom → Option CharSetItem
  | literal l => some (.single l)
  | property negated p => some (.property negated p)
  | basic negated c => some (.basic negated c)
  | dot | assertion _ => none

/-- A range from one character to another. -/
def Atom.rangeTo? : Atom → Atom → Option CharSetItem
  | literal first, literal last =>
    if first.char ≤ last.char then some (.range first last) else none
  | _, _ => none

/-- A member of a class: an atom, or a range. A hyphen makes a range unless another hyphen or
the closing bracket follows it. -/
def readItem (verbose : Bool) (cs : List Char) : Option (CharSetItem × List Char) := do
  let (first, rest) ← readSetAtom verbose cs
  match skip verbose rest with
  | '-' :: after =>
    let next := lookAhead verbose after
    if next == some ']' || next == some '-' then return (← first.toItem?, '-' :: after)
    else
      let (last, rest) ← readSetAtom verbose (skip verbose after)
      return (← first.rangeTo? last, rest)
  | rest => return (← first.toItem?, rest)

/-- The rest of a class within `outer` others, the innermost first. Hyphens at the start
stand for themselves, and so does a closing bracket that comes first. The first text limits the
steps: there are no more of them than it has characters. -/
def readBracketsLoop (verbose : Bool) (b : OpenBrackets) (outer : List OpenBrackets) :
    List Char → List Char → Option (Node × List Char)
  | [], _ => none
  | _ :: limit, cs =>
    match skip verbose cs with
    | [] => none
    | c :: rest =>
      if b.atStart && c == '-' then
        let b := { b.add (.single ⟨'-', false⟩) with atStart := true }
        readBracketsLoop verbose b outer limit rest
      else if b.atStart && b.items.isEmpty && c == ']' then
        readBracketsLoop verbose (b.add (.single ⟨']', false⟩)) outer limit rest
      else if c = '[' then
        match readAscii? rest with
        | some (item, rest) => readBracketsLoop verbose (b.add item) outer limit rest
        | none =>
          let (inner, rest) := openBrackets verbose rest
          readBracketsLoop verbose inner (b :: outer) limit rest
      else if c = ']' then
        match outer with
        | [] => some (.brackets b.negated b.finish, rest)
        | parent :: outer =>
          readBracketsLoop verbose (parent.add (.nested b.negated b.finish)) outer limit rest
      else
        match c, rest with
        | '&', '&' :: rest => readBracketsLoop verbose (b.combine .intersection) outer limit rest
        | '-', '-' :: rest => readBracketsLoop verbose (b.combine .difference) outer limit rest
        | '~', '~' :: rest =>
          readBracketsLoop verbose (b.combine .symmetricDifference) outer limit rest
        | _, _ => do
          let (item, rest) ← readItem verbose (c :: rest)
          readBracketsLoop verbose (b.add item) outer limit rest

/-- The class after an opening bracket. Every step takes a character at least, and the class
ends with one, so that the text is long enough to limit the steps. -/
def readBrackets (verbose : Bool) (cs : List Char) : Option (Node × List Char) :=
  let (b, rest) := openBrackets verbose cs
  readBracketsLoop verbose b [] rest rest

end FacetSearch.Pattern
