import FacetSearch.Pattern.Expression

/-!
# Meaning of patterns

What a pattern means: its expression, once modes and properties are applied. A pattern means
nothing if a property is unknown, or if it asks for bytes that are no text.
-/

namespace FacetSearch.Pattern

open Unicode

/-- The modes on which the meaning depends. -/
structure Modes where
  unicode : Bool := true
  ignoreCase : Bool := false
  multiLine : Bool := false
  dotMatchesNewLine : Bool := false
  swapGreed : Bool := false
  carriageReturn : Bool := false

namespace Modes

def apply (m : Modes) (change : ModeChange) : Modes where
  unicode := (change.lookup .unicode).getD m.unicode
  ignoreCase := (change.lookup .ignoreCase).getD m.ignoreCase
  multiLine := (change.lookup .multiLine).getD m.multiLine
  dotMatchesNewLine := (change.lookup .dotMatchesNewLine).getD m.dotMatchesNewLine
  swapGreed := (change.lookup .swapGreed).getD m.swapGreed
  carriageReturn := (change.lookup .carriageReturn).getD m.carriageReturn

/-- The greatest code point, or the greatest byte. -/
def greatest (m : Modes) : Nat := if m.unicode then maxCodePoint else 0xFF

/-- The ASCII letters, each with its other case. -/
def asciiForms : List (Nat × List Nat) :=
  (List.range 26).map (fun i => (0x41 + i, [0x61 + i])) ++
    (List.range 26).map fun i => (0x61 + i, [0x41 + i])

/-- The set with the other forms of its characters if case is ignored. -/
def fold (m : Modes) (s : RangeSet) : RangeSet :=
  if !m.ignoreCase then s
  else s.withListed (if m.unicode then CaseFolding.otherForms else asciiForms)

/-- A set of characters or, without Unicode, of bytes; these must be ASCII. -/
def checked? (m : Modes) (s : RangeSet) : Option RangeSet :=
  if m.unicode || s.isAscii then some s else none

def complementIf (m : Modes) (negated : Bool) (s : RangeSet) : RangeSet :=
  if negated then s.complement m.greatest else s

/-- A set as it stands in brackets. Case is ignored before the set is negated. -/
def closed? (m : Modes) (negated : Bool) (s : RangeSet) : Option RangeSet :=
  m.checked? (m.complementIf negated (m.fold s))

end Modes

/-! ## Sets of characters -/

def AsciiClass.set : AsciiClass → RangeSet
  | alnum => .ofHex ["30-39 41-5A 61-7A"]
  | alpha => .ofHex ["41-5A 61-7A"]
  | ascii => .ofHex ["0-7F"]
  | blank => .ofHex ["9 20"]
  | cntrl => .ofHex ["0-1F 7F"]
  | digit => .ofHex ["30-39"]
  | graph => .ofHex ["21-7E"]
  | lower => .ofHex ["61-7A"]
  | print => .ofHex ["20-7E"]
  | punct => .ofHex ["21-2F 3A-40 5B-60 7B-7E"]
  | space => .ofHex ["9-D 20"]
  | upper => .ofHex ["41-5A"]
  | word => .ofHex ["30-39 41-5A 5F 61-7A"]
  | xdigit => .ofHex ["30-39 41-46 61-66"]

def BasicClass.set (unicode : Bool) : BasicClass → RangeSet
  | digit => if unicode then Category.decimalNumber else AsciiClass.digit.set
  | space => if unicode then Property.whiteSpace else AsciiClass.space.set
  | word => if unicode then Property.word else AsciiClass.word.set

/-- The set of a class with an escape of its own, which has both cases of its letters. -/
def BasicClass.set? (m : Modes) (negated : Bool) (c : BasicClass) : Option RangeSet :=
  m.checked? (m.complementIf negated (c.set m.unicode))

/-- The characters with or without a property, which only Unicode knows. -/
def Property.set? (m : Modes) (negated : Bool) (p : Property) : Option RangeSet :=
  if m.unicode then p.find?.bind (m.closed? negated) else none

/-- The number of a character in brackets; without Unicode, it is that of a byte. -/
def Literal.number? (m : Modes) (l : Literal) : Option Nat :=
  if m.unicode || l.char.toNat < 0x80 then some l.char.toNat else none

def SetOperator.apply : SetOperator → RangeSet → RangeSet → RangeSet
  | intersection => .intersection
  | difference => .difference
  | symmetricDifference => .symmetricDifference

mutual

/-- The set that is written in brackets, before it is closed. -/
def CharSet.set? (m : Modes) : CharSet → Option RangeSet
  | .members items => CharSet.setOfItems? m items
  | .combined op left right => do
    return op.apply (m.fold (← left.set? m)) (m.fold (← right.set? m))

def CharSetItem.set? (m : Modes) : CharSetItem → Option RangeSet
  | .single l => do
    let n ← l.number? m
    return ⟨[(n, n)]⟩
  | .range first last => do return ⟨[(← first.number? m, ← last.number? m)]⟩
  | .ascii negated c => m.closed? negated c.set
  | .property negated p => p.set? m negated
  | .basic negated c => c.set? m negated
  | .nested negated set => do m.closed? negated (← set.set? m)

def CharSet.setOfItems? (m : Modes) : List CharSetItem → Option RangeSet
  | [] => some .empty
  | item :: items => do return (← item.set? m).union (← CharSet.setOfItems? m items)

end

/-! ## Expressions -/

/-- Any character, but for the ends of lines unless these are meant too. -/
def dotSet (m : Modes) : RangeSet :=
  if m.dotMatchesNewLine then ⟨[(0, maxCodePoint)]⟩
  else if m.carriageReturn then .complement maxCodePoint (.ofList [0x0A, 0x0D])
  else .complement maxCodePoint (.ofList [0x0A])

def Assertion.place (m : Modes) : Assertion → Place
  | lineStart => if m.multiLine then .lineStart m.carriageReturn else .textStart
  | lineEnd => if m.multiLine then .lineEnd m.carriageReturn else .textEnd
  | textStart => .textStart
  | textEnd => .textEnd
  | side => .atWord side m.unicode

/-- A character, or all of its forms if case is ignored. Without Unicode, a byte that is part
of a longer character cannot be matched on its own. -/
def Literal.expression? (m : Modes) (l : Literal) : Option Expression :=
  let n := l.char.toNat
  if !m.unicode && 0x80 ≤ n then
    if l.asByte then none else some (.literal (Utf8.encode n))
  else some (.ofSet m.unicode (m.fold ⟨[(n, n)]⟩))

def Atom.expression? (m : Modes) : Atom → Option Expression
  | literal l => l.expression? m
  | dot => if m.unicode then some (.ofSet true (dotSet m)) else none
  | assertion a => some (.place (a.place m))
  | property negated p => (p.set? m negated).map (.ofSet m.unicode)
  | basic negated c => (c.set? m negated).map (.ofSet m.unicode)

mutual

/-- The modes after a part of a pattern, and what the part means. -/
def Node.meaning? (m : Modes) : Node → Option (Modes × Expression)
  | .empty => some (m, .empty)
  | .modes change => some (m.apply change, .empty)
  | .atom a => (a.expression? m).map fun e => (m, e)
  | .brackets negated set => do
    return (m, .ofSet m.unicode (← m.closed? negated (← set.set? m)))
  | .repetition least most greedy body => do
    let (after, e) ← body.meaning? m
    return (after, .repeated least most (greedy != after.swapGreed) e)
  | .group captures change body => do
    let (_, e) ← body.meaning? (m.apply change)
    return (m, if captures then .capture e else e)
  | .alternation branches => do
    let (after, es) ← Node.meanings? m branches
    return (after, .oneOfAll es)
  | .sequence parts => do
    let (after, es) ← Node.meanings? m parts
    return (after, .inRow es)

/-- The modes after nodes that follow each other in the pattern, and what these mean. -/
def Node.meanings? (m : Modes) : List Node → Option (Modes × List Expression)
  | [] => some (m, [])
  | n :: ns => do
    let (m, e) ← n.meaning? m
    let (m, es) ← Node.meanings? m ns
    return (m, e :: es)

end

end FacetSearch.Pattern
