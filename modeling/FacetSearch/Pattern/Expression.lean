import FacetSearch.Pattern.Syntax
import FacetSearch.Unicode.RangeSet
import FacetSearch.Unicode.Utf8

/-!
# Expressions

What a pattern matches once its modes are applied, in a simplified form: neighbouring literals
are one literal, nothing is nested without need, a choice between single characters is a set,
and what alternatives begin with in common stands in front of them.
-/

namespace FacetSearch.Pattern

open Unicode

/-- What a place in a text must be, in the modes of the pattern around it. -/
inductive Place where
  | textStart
  | textEnd
  /-- A line may also end with a carriage return. -/
  | lineStart (carriageReturn : Bool)
  | lineEnd (carriageReturn : Bool)
  /-- A place at a word of Unicode or of ASCII characters. -/
  | atWord (side : Assertion) (unicode : Bool)
deriving DecidableEq, Repr

inductive Expression where
  | empty
  | literal (bytes : List Nat)
  /-- One character, or one byte if it is not about Unicode. -/
  | oneOf (unicode : Bool) (members : RangeSet)
  | place (p : Place)
  | repetition (least : Nat) (most : Option Nat) (greedy : Bool) (body : Expression)
  | capture (body : Expression)
  | concatenation (parts : List Expression)
  | alternation (branches : List Expression)

namespace Expression

/-! ## Comparison -/

mutual

/-- Whether two expressions are the same. A capture is the same as no other. -/
def same : Expression → Expression → Bool
  | .empty, .empty => true
  | .literal a, .literal b => a == b
  | .oneOf u s, .oneOf v t => u == v && s == t
  | .place p, .place q => p == q
  | .repetition l m g a, .repetition l' m' g' b => l == l' && m == m' && g == g' && a.same b
  | .concatenation as, .concatenation bs => sameList as bs
  | .alternation as, .alternation bs => sameList as bs
  | _, _ => false

def sameList : List Expression → List Expression → Bool
  | [], [] => true
  | a :: as, b :: bs => a.same b && sameList as bs
  | _, _ => false

end

/-! ## Lengths and places -/

mutual

/-- The least number of bytes that are matched; none if nothing is. -/
def leastLength? : Expression → Option Nat
  | .empty | .place _ => some 0
  | .literal bytes => some bytes.length
  | .oneOf unicode s =>
    s.runs.head?.map fun r => if unicode then (Utf8.encode r.1).length else 1
  | .repetition least _ _ body => body.leastLength?.map (least * ·)
  | .capture body => body.leastLength?
  | .concatenation parts => leastLengthInRow? parts
  | .alternation branches => leastLengthAmong? branches

def leastLengthInRow? : List Expression → Option Nat
  | [] => some 0
  | e :: es => do return (← e.leastLength?) + (← leastLengthInRow? es)

def leastLengthAmong? : List Expression → Option Nat
  | [] => none
  | [e] => e.leastLength?
  | e :: es => do return min (← e.leastLength?) (← leastLengthAmong? es)

end

mutual

/-- Whether nothing but the empty text is matched. -/
def isBlank : Expression → Bool
  | .empty | .place _ => true
  | .literal bytes => bytes.isEmpty
  | .oneOf _ _ => false
  | .repetition _ most _ body => most.isSome && body.isBlank
  | .capture body => body.isBlank
  | .concatenation parts => areBlank parts
  | .alternation branches => areBlank branches

def areBlank : List Expression → Bool
  | [] => true
  | e :: es => e.isBlank && areBlank es

end

mutual

/-- Whether every match begins at the start of the text. -/
def startsText : Expression → Bool
  | .place .textStart => true
  | .repetition least _ _ body => 0 < least && body.startsText
  | .capture body => body.startsText
  | .concatenation parts => startTextInRow parts
  | .alternation branches => startTextAll branches
  | _ => false

def startTextInRow : List Expression → Bool
  | [] => false
  | e :: es => e.startsText || e.isBlank && startTextInRow es

def startTextAll : List Expression → Bool
  | [] => true
  | e :: es => e.startsText && startTextAll es

end

mutual

/-- Whether every match ends at the end of the text. -/
def endsText : Expression → Bool
  | .place .textEnd => true
  | .repetition least _ _ body => 0 < least && body.endsText
  | .capture body => body.endsText
  | .concatenation parts => (rowEnd parts).2
  | .alternation branches => endTextAll branches
  | _ => false

/-- Whether a row matches nothing but the empty text, and whether every match of it ends at the
end of the text. -/
def rowEnd : List Expression → Bool × Bool
  | [] => (true, false)
  | e :: es =>
    let (blank, ends) := rowEnd es
    (blank && e.isBlank, ends || blank && e.endsText)

def endTextAll : List Expression → Bool
  | [] => true
  | e :: es => e.endsText && endTextAll es

end

/-! ## Simplification -/

/-- What matches nothing. -/
def fail : Expression := .oneOf false .empty

/-- One of some characters, or bytes; a single one is a literal. -/
def ofSet (unicode : Bool) (s : RangeSet) : Expression :=
  match s.runs with
  | [] => fail
  | [(a, b)] =>
    if a = b then .literal (if unicode then Utf8.encode a else [a]) else .oneOf unicode s
  | _ => .oneOf unicode s

/-- A repetition. What is blank is not repeated more than once. -/
def repeated (least : Nat) (most : Option Nat) (greedy : Bool) (body : Expression) : Expression :=
  let least := if body.isBlank then min least 1 else least
  let most := if body.isBlank then some (min (most.getD 1) 1) else most
  if most = some 0 then .empty
  else if least = 1 ∧ most = some 1 then body
  else .repetition least most greedy body

/-- The parts of a row without empty ones, with neighbouring literals joined. -/
def joinLiterals : List Expression → List Expression
  | [] => []
  | .empty :: es => joinLiterals es
  | .literal a :: es =>
    match joinLiterals es with
    | .literal b :: rest => .literal (a ++ b) :: rest
    | rest => .literal a :: rest
  | e :: es => e :: joinLiterals es

/-- The parts of a concatenation. -/
def parts : Expression → List Expression
  | .concatenation es => es
  | e => [e]

/-- Expressions one after the other. -/
def inRow (es : List Expression) : Expression :=
  match joinLiterals (es.flatMap parts) with
  | [] => .empty
  | [e] => e
  | es => .concatenation es

/-- The branches of an alternation. -/
def branches : Expression → List Expression
  | .alternation es => es
  | e => [e]

/-- The code point of a literal of one character. -/
def singleCharacter? : Expression → Option Nat
  | .literal bytes =>
    let n := match bytes with
      | [a] => a
      | [a, b] => a % 0x20 * 0x40 + b % 0x40
      | [a, b, c] => (a % 0x10 * 0x40 + b % 0x40) * 0x40 + c % 0x40
      | [a, b, c, d] => ((a % 8 * 0x40 + b % 0x40) * 0x40 + c % 0x40) * 0x40 + d % 0x40
      | _ => 0
    if Utf8.encode n = bytes then some n else none
  | _ => none

def members? : Expression → Option RangeSet
  | .oneOf _ s => some s
  | _ => none

/-- A choice. If all branches are single characters, or all are sets, it is a set. -/
def choice (es : List Expression) : Expression :=
  match es.flatMap branches with
  | [] => fail
  | [e] => e
  | es =>
    match es.mapM singleCharacter?, es.mapM members? with
    | some ns, _ => ofSet true (.ofList ns)
    | none, some sets => ofSet true (.unions sets)
    | none, none => .alternation es

/-- How many parts at the front of two rows are the same. -/
def sameFront : List Expression → List Expression → Nat
  | a :: as, b :: bs => if a.same b then sameFront as bs + 1 else 0
  | _, _ => 0

/-- The parts of a concatenation proper. -/
def rowParts? : Expression → Option (List Expression)
  | .concatenation es => some es
  | _ => none

/-- A choice, with what the branches begin with in common in front of it if all of them are
concatenations. -/
def oneOfAll (es : List Expression) : Expression :=
  match choice es with
  | .alternation bs =>
    match bs.mapM rowParts? with
    | some (row :: rows) =>
      let common := rows.foldl (fun n r => min n (sameFront row r)) row.length
      if common = 0 then .alternation bs
      else inRow (row.take common ++ [choice ((row :: rows).map fun r => inRow (r.drop common))])
    | _ => .alternation bs
  | e => e

end Expression

end FacetSearch.Pattern
