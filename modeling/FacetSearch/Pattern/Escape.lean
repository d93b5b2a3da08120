import FacetSearch.Pattern.Gap
import FacetSearch.Pattern.Literal
import FacetSearch.Pattern.Syntax
import FacetSearch.Text.Hex

/-!
# Escapes

What a backslash and the characters after it stand for. Each reader takes the text after the
characters that announce the escape, and gives the text after the escape as well.
-/

namespace FacetSearch.Pattern

/-- The character with a number that is written in hexadecimal digits; surrogates are none. -/
def charOfHex? (digits : List Char) : Option Char := do
  let n ← Text.hexNumber? digits
  if digits.isEmpty then none
  else if n < 0x110000 ∧ ¬ (0xD800 ≤ n ∧ n < 0xE000) then some (Char.ofNat n)
  else none

/-- The given number of characters, with gaps between them, and what follows them. -/
def spaced (verbose : Bool) : Nat → List Char → Option (List Char × List Char)
  | 0, cs => some ([], cs)
  | _ + 1, [] => none
  | n + 1, c :: cs =>
    (spaced verbose n (skip verbose cs)).map fun (taken, rest) => (c :: taken, rest)

/-- A character by its number, in braces or with a fixed number of digits. -/
def readHex (verbose : Bool) (digits : Nat) (cs : List Char) : Option (Atom × List Char) := do
  match skip verbose cs with
  | '\x7b' :: inner => do
    let (inner, rest) ← untilBrace verbose false inner
    return (.literal ⟨← charOfHex? inner, false⟩, rest)
  | cs => do
    let (inner, rest) ← spaced verbose digits cs
    return (.literal ⟨← charOfHex? inner, digits == 2⟩, rest)

/-- The characters with a property, named by one letter or between braces. -/
def readProperty (verbose negated : Bool) (cs : List Char) : Option (Atom × List Char) :=
  match skip verbose cs with
  | [] => none
  | '\x7b' :: inner => do
    let (name, rest) ← untilBrace verbose false inner
    return (.property negated (.ofBraces name), rest)
  | c :: rest => if c = '\\' then none else some (.property negated (.alone [c]), rest)

/-- The sides of a word that a name in braces after `\b` means. -/
def boundary? (name : List Char) : Option Assertion :=
  if name = "start".toList then some .wordStart
  else if name = "end".toList then some .wordEnd
  else if name = "start-half".toList then some .wordStartHalf
  else if name = "end-half".toList then some .wordEndHalf
  else none

/-- A word boundary. Braces that begin with a letter or a hyphen belong to it. -/
def readBoundary (verbose : Bool) (cs : List Char) : Option (Atom × List Char) :=
  let plain := some (.assertion .wordBoundary, cs)
  match cs with
  | '\x7b' :: inner => do
    let (name, rest) ← untilBrace verbose false inner
    match name with
    | [] => plain
    | c :: _ =>
      if c.isAlpha || c == '-' then (boundary? name).map fun a => (.assertion a, rest) else plain
  | _ => plain

/-- The assertion that a letter or a sign stands for. -/
def assertion? (c : Char) : Option Assertion :=
  if c = 'A' then some .textStart
  else if c = 'z' then some .textEnd
  else if c = 'B' then some .noWordBoundary
  else if c = '<' then some .wordStart
  else if c = '>' then some .wordEnd
  else none

/-- The class with an escape of its own, and whether the escape asks for all other characters. -/
def basicClass? (c : Char) : Option (Bool × BasicClass) :=
  if c = 'd' then some (false, .digit)
  else if c = 'D' then some (true, .digit)
  else if c = 's' then some (false, .space)
  else if c = 'S' then some (true, .space)
  else if c = 'w' then some (false, .word)
  else if c = 'W' then some (true, .word)
  else none

/-- The control character that a letter stands for. -/
def control? (c : Char) : Option Char :=
  if c = 'a' then some '\x07'
  else if c = 'f' then some '\x0c'
  else if c = 't' then some '\t'
  else if c = 'n' then some '\n'
  else if c = 'r' then some '\r'
  else if c = 'v' then some '\x0b'
  else none

/-- The ASCII characters that stand for themselves after a backslash: no letters and digits,
and no angle brackets. -/
def standsForItself (c : Char) : Bool :=
  c.toNat < 128 && !c.isAlphanum && c != '<' && c != '>'

/-- The escape after a backslash. -/
def readEscape (verbose : Bool) : List Char → Option (Atom × List Char)
  | [] => none
  | c :: cs =>
    if c = 'x' then readHex verbose 2 cs
    else if c = 'u' then readHex verbose 4 cs
    else if c = 'U' then readHex verbose 8 cs
    else if c = 'p' then readProperty verbose false cs
    else if c = 'P' then readProperty verbose true cs
    else if c = 'b' then readBoundary verbose cs
    else if standsForItself c then some (.literal ⟨c, false⟩, cs)
    else
      match assertion? c, basicClass? c with
      | some a, _ => some (.assertion a, cs)
      | none, some (negated, basic) => some (.basic negated basic, cs)
      | none, none => (control? c).map fun d => (.literal ⟨d, false⟩, cs)

end FacetSearch.Pattern
