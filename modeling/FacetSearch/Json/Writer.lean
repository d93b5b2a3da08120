import FacetSearch.Json.Basic

/-!
# Writing JSON

JSON text without blanks. In strings the program escapes quotes, backslashes and control characters
only. Text in ASCII, where every other character is written by its UTF-16 units, is for readers that
take no more.
-/

namespace FacetSearch.Json

def hexDigit (n : Nat) : Char := Nat.digitChar n

/-- The escape of one UTF-16 unit. -/
def unitEscape (n : Nat) : List Char :=
  ['\\', 'u', hexDigit (n / 0x1000 % 16), hexDigit (n / 0x100 % 16), hexDigit (n / 16 % 16),
    hexDigit (n % 16)]

/-- A character inside a string. -/
def escapeChar (c : Char) : List Char :=
  if c = '\x22' ∨ c = '\\' then ['\\', c]
  else if c = '\x08' then ['\\', 'b']
  else if c = '\x0c' then ['\\', 'f']
  else if c = '\n' then ['\\', 'n']
  else if c = '\r' then ['\\', 'r']
  else if c = '\t' then ['\\', 't']
  else if c.toNat < 0x20 then unitEscape c.toNat
  else [c]

/-- A character inside a string in ASCII. -/
def escapeToAscii (c : Char) : List Char :=
  let n := c.toNat
  if c = '\x22' ∨ c = '\\' then ['\\', c]
  else if 0x20 ≤ n ∧ n < 0x7F then [c]
  else if n < 0x10000 then unitEscape n
  else unitEscape (0xD800 + (n - 0x10000) / 0x400) ++ unitEscape (0xDC00 + (n - 0x10000) % 0x400)

section Escape

variable (escape : Char → List Char)

def quoted (s : String) : List Char := '\x22' :: s.toList.flatMap escape ++ ['\x22']

mutual

/-- The text of a value. -/
def chars : Json → List Char
  | null => "null".toList
  | bool true => "true".toList
  | bool false => "false".toList
  | number n => n.text.toList
  | string s => quoted escape s
  | array items => '[' :: itemChars items ++ [']']
  | object members => '\x7b' :: memberChars members ++ ['\x7d']

/-- The items of an array, separated by commas. -/
def itemChars : List Json → List Char
  | [] => []
  | [v] => chars v
  | v :: vs => chars v ++ ',' :: itemChars vs

/-- The members of an object, separated by commas. -/
def memberChars : List (String × Json) → List Char
  | [] => []
  | [(k, v)] => quoted escape k ++ ':' :: chars v
  | (k, v) :: ms => quoted escape k ++ ':' :: chars v ++ ',' :: memberChars ms

end

end Escape

/-- The text that the program writes. -/
def text (v : Json) : String := String.ofList (chars escapeChar v)

/-- The text in ASCII. -/
def render (v : Json) : String := String.ofList (chars escapeToAscii v)

end FacetSearch.Json
