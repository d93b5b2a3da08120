import FacetSearch.Pattern.Property

/-!
# Regular expressions

The syntax of regular expressions: what a pattern is made of, before its modes are applied.
-/

namespace FacetSearch.Pattern

/-- A mode of matching that a pattern can switch on and off. -/
inductive Mode where
  | ignoreCase
  | multiLine
  | dotMatchesNewLine
  | swapGreed
  | unicode
  | carriageReturn
  | verbose
deriving DecidableEq, Repr

/-- Modes with their new states; a mode occurs once. -/
abbrev ModeChange := List (Mode × Bool)

/-- One character in a pattern. -/
structure Literal where
  char : Char
  /-- Written as a byte, with `\x` and two digits. -/
  asByte : Bool

/-- The classes of characters with an escape of their own. -/
inductive BasicClass where
  | digit
  | space
  | word
deriving DecidableEq, Repr

/-- What a place in a text must be. -/
inductive Assertion where
  | lineStart
  | lineEnd
  | textStart
  | textEnd
  | wordBoundary
  | noWordBoundary
  | wordStart
  | wordEnd
  /-- No word before the place. -/
  | wordStartHalf
  /-- No word after the place. -/
  | wordEndHalf
deriving DecidableEq, Repr

/-- What one character, or one escape, stands for. -/
inductive Atom where
  | literal (l : Literal)
  /-- Any character. -/
  | dot
  | assertion (a : Assertion)
  | property (negated : Bool) (p : Property)
  | basic (negated : Bool) (c : BasicClass)

/-- The classes of ASCII characters that are named within brackets. -/
inductive AsciiClass where
  | alnum | alpha | ascii | blank | cntrl | digit | graph | lower | print | punct | space
  | upper | word | xdigit
deriving DecidableEq, Repr

inductive SetOperator where
  | intersection
  | difference
  | symmetricDifference
deriving DecidableEq, Repr

mutual

/-- A set of characters in brackets: everything in a list of members, or an operation on two
sets. -/
inductive CharSet where
  | members (items : List CharSetItem)
  | combined (op : SetOperator) (left right : CharSet)

inductive CharSetItem where
  | single (l : Literal)
  | range (first last : Literal)
  | ascii (negated : Bool) (c : AsciiClass)
  | property (negated : Bool) (p : Property)
  | basic (negated : Bool) (c : BasicClass)
  | nested (negated : Bool) (set : CharSet)

end

/-- A regular expression. -/
inductive Node where
  | empty
  /-- Switches modes for the rest of the group. -/
  | modes (change : ModeChange)
  | atom (a : Atom)
  | brackets (negated : Bool) (set : CharSet)
  /-- So many times at least and, if there is a limit, at most; as often as possible if it is
  greedy, else as seldom. -/
  | repetition (least : Nat) (most : Option Nat) (greedy : Bool) (body : Node)
  | group (captures : Bool) (change : ModeChange) (body : Node)
  | alternation (branches : List Node)
  | sequence (parts : List Node)

/-- The parts of one alternative in order. -/
def Node.ofParts : List Node → Node
  | [] => .empty
  | [n] => n
  | parts => .sequence parts

/-- The alternatives of a group in order. -/
def Node.ofBranches : List Node → Node
  | [n] => n
  | branches => .alternation branches

/-! ## Depth -/

mutual

/-- How deep the sets in a set of characters are nested, lists of more than one member and
operations counted. -/
def CharSet.depth : CharSet → Nat
  | .members [] => 0
  | .members [item] => item.depth
  | .members items => 1 + CharSet.depthOfItems items
  | .combined _ left right => 1 + max left.depth right.depth

def CharSetItem.depth : CharSetItem → Nat
  | .nested _ set => 1 + set.depth
  | _ => 0

def CharSet.depthOfItems : List CharSetItem → Nat
  | [] => 0
  | item :: items => max item.depth (CharSet.depthOfItems items)

end

mutual

/-- How deep a pattern is nested: sets in brackets, repetitions, groups, alternations and
sequences count. -/
def Node.depth : Node → Nat
  | .empty => 0
  | .modes _ => 0
  | .atom _ => 0
  | .brackets _ set => 1 + set.depth
  | .repetition _ _ _ body => 1 + body.depth
  | .group _ _ body => 1 + body.depth
  | .alternation branches => 1 + Node.depthOfList branches
  | .sequence parts => 1 + Node.depthOfList parts

def Node.depthOfList : List Node → Nat
  | [] => 0
  | n :: ns => max n.depth (Node.depthOfList ns)

end

end FacetSearch.Pattern
