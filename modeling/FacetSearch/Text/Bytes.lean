/-!
# Text as bytes

Texts as UTF-8 bytes. Bytes that are no text can still be read leniently: every longest
start of a character that is not continued as it must be is replaced by U+FFFD, and so is
every byte that starts no character.
-/

namespace FacetSearch

abbrev Bytes := List UInt8

namespace Bytes

/-- The UTF-8 bytes of a text. -/
def ofText (s : String) : Bytes := s.toUTF8.data.toList

/-- The text with these UTF-8 bytes. -/
def text? (b : Bytes) : Option String := String.fromUTF8? ⟨b.toArray⟩

def within (low high : Nat) (b : UInt8) : Bool := low ≤ b.toNat && b.toNat ≤ high

/-- A byte that continues a character. -/
def isContinuation (b : UInt8) : Bool := within 0x80 0xBF b

/-- Whether the second byte of a character of three or four bytes may follow the first. -/
def isSecond (first second : UInt8) : Bool :=
  if first = 0xE0 then within 0xA0 0xBF second
  else if first = 0xED then within 0x80 0x9F second
  else if first = 0xF0 then within 0x90 0xBF second
  else if first = 0xF4 then within 0x80 0x8F second
  else isContinuation second

/-- The low six bits of a byte that continues a character. -/
def payload (b : UInt8) : Nat := b.toNat % 0x40

/-- The number of bytes at the front that are replaced together. -/
def brokenLength : Bytes → Nat
  | first :: second :: third :: _ =>
    if within 0xE0 0xF4 first && isSecond first second then
      if within 0xF0 0xF4 first && isContinuation third then 3 else 2
    else 1
  | [first, second] => if within 0xE0 0xF4 first && isSecond first second then 2 else 1
  | _ => 1

/-- The character at the front and its number of bytes. -/
def front? : Bytes → Option (Char × Nat)
  | [] => none
  | first :: rest =>
    if first.toNat < 0x80 then some (Char.ofNat first.toNat, 1)
    else if within 0xC2 0xDF first then
      match rest with
      | second :: _ =>
        if isContinuation second then
          some (Char.ofNat (first.toNat % 0x20 * 0x40 + payload second), 2)
        else none
      | _ => none
    else if within 0xE0 0xEF first then
      match rest with
      | second :: third :: _ =>
        if isSecond first second && isContinuation third then
          some (Char.ofNat (first.toNat % 0x10 * 0x1000 + payload second * 0x40 + payload third), 3)
        else none
      | _ => none
    else if within 0xF0 0xF4 first then
      match rest with
      | second :: third :: fourth :: _ =>
        if isSecond first second && isContinuation third && isContinuation fourth then
          some (Char.ofNat (first.toNat % 0x08 * 0x40000 + payload second * 0x1000 +
            payload third * 0x40 + payload fourth), 4)
        else none
      | _ => none
    else none

/-- The characters of `fuel` bytes, what is broken being replaced. -/
def replacing : Nat → Bytes → List Char
  | 0, _ => []
  | _, [] => []
  | fuel + 1, b =>
    match front? b with
    | some (c, n) => c :: replacing fuel (b.drop n)
    | none => '\uFFFD' :: replacing fuel (b.drop (brokenLength b))

/-- The text with these bytes, where what is not UTF-8 is replaced. -/
def textReplacing (b : Bytes) : String :=
  match text? b with
  | some s => s
  | none => String.ofList (replacing b.length b)

end Bytes

end FacetSearch
