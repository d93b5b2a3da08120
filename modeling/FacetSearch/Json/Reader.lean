import FacetSearch.Json.Number
import FacetSearch.Text.Hex

/-!
# Reading JSON

A JSON text is read in two passes: characters into tokens, tokens into a value. Each pass
goes through its input once, one step for every character or token. Text after the value,
a control character or a lone surrogate in a string, a number out of range and more than 127
containers within each other are refused.
-/

namespace FacetSearch.Json

inductive Token where
  | beginArray
  | endArray
  | beginObject
  | endObject
  | colon
  | comma
  | scalar (value : Json)

/-! ## Characters into tokens -/

/-- Where the reading of characters stands. The characters of an unfinished token are kept
with the last one first. -/
inductive Lexer where
  | between
  | word (read : List Char)
  | number (read : List Char)
  | string (read : List Char)
  | escape (read : List Char)
  /-- In `\u` with so many hexadecimal digits read, after the high surrogate `high` if any. -/
  | unit (read : List Char) (high : Option Nat) (count value : Nat)
  /-- After a high surrogate, before the backslash of the low one. -/
  | lowEscape (read : List Char) (high : Nat)
  /-- After a high surrogate and a backslash. -/
  | lowUnit (read : List Char) (high : Nat)

/-- The white space of JSON. -/
def isBlankChar (c : Char) : Bool := c == ' ' || c == '\t' || c == '\n' || c == '\r'

def isNumberChar (c : Char) : Bool :=
  c.isDigit || c == '-' || c == '+' || c == '.' || c == 'e' || c == 'E'

def wordToken? (cs : List Char) : Option Token :=
  if cs = ['n', 'u', 'l', 'l'] then some (.scalar .null)
  else if cs = ['t', 'r', 'u', 'e'] then some (.scalar (.bool true))
  else if cs = ['f', 'a', 'l', 's', 'e'] then some (.scalar (.bool false))
  else none

def numberToken? (cs : List Char) : Option Token :=
  (JsonNumber.ofChars? cs).map fun n => .scalar (.number n)

/-- A character where a token may begin. -/
def beginToken (c : Char) : Option (Lexer × List Token) :=
  if isBlankChar c then some (.between, [])
  else if c.isDigit || c == '-' then some (.number [c], [])
  else if c.isAlpha then some (.word [c], [])
  else if c = '\x22' then some (.string [], [])
  else if c = '[' then some (.between, [.beginArray])
  else if c = ']' then some (.between, [.endArray])
  else if c = '\x7b' then some (.between, [.beginObject])
  else if c = '\x7d' then some (.between, [.endObject])
  else if c = ':' then some (.between, [.colon])
  else if c = ',' then some (.between, [.comma])
  else none

/-- The character that a one-letter escape stands for. -/
def escaped? (c : Char) : Option Char :=
  if c = '\x22' ∨ c = '\\' ∨ c = '/' then some c
  else if c = 'b' then some '\x08'
  else if c = 'f' then some '\x0c'
  else if c = 'n' then some '\n'
  else if c = 'r' then some '\r'
  else if c = 't' then some '\t'
  else none

/-- After the four digits of `\u`. A high surrogate must be followed by a low one, and a low
one must follow a high one. -/
def endUnit (read : List Char) (high : Option Nat) (value : Nat) : Option Lexer :=
  match high with
  | none =>
    if 0xD800 ≤ value ∧ value < 0xDC00 then some (.lowEscape read value)
    else if 0xDC00 ≤ value ∧ value < 0xE000 then none
    else some (.string (Char.ofNat value :: read))
  | some h =>
    if 0xDC00 ≤ value ∧ value < 0xE000 then
      some (.string (Char.ofNat (0x10000 + (h - 0xD800) * 0x400 + (value - 0xDC00)) :: read))
    else none

def Lexer.step : Lexer → Char → Option (Lexer × List Token)
  | between, c => beginToken c
  | word read, c =>
    if c.isAlpha then some (word (c :: read), [])
    else do
      let token ← wordToken? read.reverse
      let (next, tokens) ← beginToken c
      return (next, token :: tokens)
  | number read, c =>
    if isNumberChar c then some (number (c :: read), [])
    else do
      let token ← numberToken? read.reverse
      let (next, tokens) ← beginToken c
      return (next, token :: tokens)
  | string read, c =>
    if c = '\x22' then some (between, [.scalar (.string (String.ofList read.reverse))])
    else if c = '\\' then some (escape read, [])
    else if c.toNat < 0x20 then none
    else some (string (c :: read), [])
  | escape read, c =>
    if c = 'u' then some (unit read none 0 0, [])
    else (escaped? c).map fun d => (string (d :: read), [])
  | unit read high count value, c => do
    let digit ← Text.hexValue? c
    let value := value * 16 + digit
    if count < 3 then return (unit read high (count + 1) value, [])
    else return (← endUnit read high value, [])
  | lowEscape read high, c => if c = '\\' then some (lowUnit read high, []) else none
  | lowUnit read high, c => if c = 'u' then some (unit read (some high) 0 0, []) else none

/-- The token that the end of the text completes, if any. -/
def Lexer.finish : Lexer → Option (List Token)
  | between => some []
  | word read => (wordToken? read.reverse).map ([·])
  | number read => (numberToken? read.reverse).map ([·])
  | _ => none

/-- One character more, with the tokens so far, the last one first. -/
def lexStep (state : Lexer × List Token) (c : Char) : Option (Lexer × List Token) := do
  let (next, tokens) ← state.1.step c
  return (next, tokens.reverse ++ state.2)

/-- The tokens of a text. -/
def tokens? (cs : List Char) : Option (List Token) := do
  let (last, read) ← cs.foldlM lexStep (.between, [])
  let rest ← last.finish
  return (rest.reverse ++ read).reverse

/-! ## Tokens into a value -/

/-- A container that is not complete: the items of an array with the last one first, or the
members of an object with the key of the next one. -/
inductive Frame where
  | array (items : List Json)
  | object (members : List (String × Json)) (key : String)

/-- What may come next. -/
inductive Expected where
  | value
  | valueOrEnd
  | key
  | keyOrEnd
  | colon
  | separator
  | nothing (result : Json)

structure Parser where
  frames : List Frame
  expected : Expected

/-- More containers within each other than this are refused. -/
def maxDepth : Nat := 127

/-- The parser after a complete value. -/
def Parser.push (frames : List Frame) (v : Json) : Parser :=
  match frames with
  | [] => ⟨[], .nothing v⟩
  | .array items :: rest => ⟨.array (v :: items) :: rest, .separator⟩
  | .object members key :: rest => ⟨.object (setMember key v members) key :: rest, .separator⟩

/-- A token where a value begins. -/
def Parser.beginValue (frames : List Frame) : Token → Option Parser
  | .scalar v => some (push frames v)
  | .beginArray =>
    if frames.length < maxDepth then some ⟨.array [] :: frames, .valueOrEnd⟩ else none
  | .beginObject =>
    if frames.length < maxDepth then some ⟨.object [] "" :: frames, .keyOrEnd⟩ else none
  | _ => none

/-- The end of the innermost container. -/
def Parser.close : List Frame → Token → Option Parser
  | .array items :: rest, .endArray => some (push rest (.array items.reverse))
  | .object members _ :: rest, .endObject => some (push rest (.object members))
  | _, _ => none

def Parser.beginMember : List Frame → Token → Option Parser
  | .object members _ :: rest, .scalar (.string key) => some ⟨.object members key :: rest, .colon⟩
  | _, _ => none

def Parser.step (p : Parser) (t : Token) : Option Parser :=
  match p.expected with
  | .value => beginValue p.frames t
  | .valueOrEnd =>
    match t with
    | .endArray => close p.frames t
    | _ => beginValue p.frames t
  | .key => beginMember p.frames t
  | .keyOrEnd =>
    match t with
    | .endObject => close p.frames t
    | _ => beginMember p.frames t
  | .colon =>
    match t with
    | .colon => some ⟨p.frames, .value⟩
    | _ => none
  | .separator =>
    match t, p.frames with
    | .comma, .array _ :: _ => some ⟨p.frames, .value⟩
    | .comma, .object _ _ :: _ => some ⟨p.frames, .key⟩
    | _, _ => close p.frames t
  | .nothing _ => none

/-- The value that a list of tokens writes. -/
def ofTokens? (ts : List Token) : Option Json := do
  let p ← ts.foldlM Parser.step ⟨[], .value⟩
  match p.expected with
  | .nothing v => some v
  | _ => none

/-- The value that a text writes, if it is JSON. -/
def parse? (s : String) : Option Json := (tokens? s.toList).bind ofTokens?

end FacetSearch.Json
