/-!
# URIs of requests

The target of a request: a path with an optional query, the same behind a scheme and an
authority, an authority alone, or `*`.
-/

namespace FacetSearch

structure Uri where
  path : String
  query : Option String
deriving DecidableEq, Repr

namespace Uri

/-- Longer targets are refused. -/
def maxLength : Nat := 65534

def isPathChar (c : Char) : Bool :=
  let n := c.toNat
  n = 0x21 || n = 0x22 || (0x24 ≤ n && n ≤ 0x3B) || n = 0x3D || (0x40 ≤ n && n ≤ 0x5F) ||
    (0x61 ≤ n && n ≤ 0x7E) || 0x80 ≤ n

def isQueryChar (c : Char) : Bool :=
  let n := c.toNat
  n = 0x21 || (0x24 ≤ n && n ≤ 0x3B) || n = 0x3D || (0x3F ≤ n && n ≤ 0x7E) || 0x80 ≤ n

/-- A path with an optional query. What follows `#` does not matter. -/
def ofPathAndQuery? (cs : List Char) : Option (List Char × Option (List Char)) :=
  let cs := cs.takeWhile (· ≠ '#')
  let path := cs.takeWhile (· ≠ '?')
  let query := match cs.dropWhile (· ≠ '?') with
    | [] => none
    | _ :: rest => some rest
  if path.all isPathChar && (query.getD []).all isQueryChar then some (path, query) else none

def isSchemeChar (c : Char) : Bool := c.isAlphanum || c ∈ ['+', '-', '.', '~']

def schemeEnd : List Char := [':', '/', '/']

/-- The target behind `scheme://`; the outer `none` if the scheme is too long, the inner one
if there is no scheme. -/
def afterScheme? (cs : List Char) : Option (Option (List Char)) :=
  let scheme := cs.takeWhile isSchemeChar
  let rest := cs.dropWhile isSchemeChar
  if schemeEnd.isPrefixOf rest then
    if 64 < scheme.length then none else some (some (rest.drop 3))
  else some none

/-- The characters of an authority that mean nothing more. -/
def isAuthorityChar (c : Char) : Bool :=
  c.isAlphanum || c ∈ ['!', '$', '&', '\x27', '(', ')', '*', '+', ',', '-', '.', ';', '=', '_', '~']

/-- What has been seen of an authority: colons and percent signs since the last `@` or `]`,
brackets, and whether the last character was an `@`. -/
structure AuthorityState where
  colons : Nat := 0
  opened : Bool := false
  closed : Bool := false
  percent : Bool := false
  endsInAt : Bool := false

def AuthorityState.step (s : AuthorityState) (c : Char) : Option AuthorityState :=
  let s := { s with endsInAt := false }
  if c = ':' then if 8 ≤ s.colons then none else some { s with colons := s.colons + 1 }
  else if c = '[' then if s.percent || s.opened then none else some { s with opened := true }
  else if c = ']' then
    if !s.opened || s.closed then none
    else some { s with closed := true, colons := 0, percent := false }
  else if c = '@' then some { s with colons := 0, percent := false, endsInAt := true }
  else if c = '%' then some { s with percent := true }
  else if isAuthorityChar c then some s
  else none

def isAuthorityEnd (c : Char) : Bool := c = '/' || c = '?' || c = '#'

/-- What follows an authority at the front, and whether that is empty. -/
def afterAuthority? (cs : List Char) : Option (Bool × List Char) := do
  let authority := cs.takeWhile (!isAuthorityEnd ·)
  let s ← authority.foldlM AuthorityState.step {}
  if s.opened != s.closed || 1 < s.colons || s.endsInAt || s.percent then none
  else some (authority.isEmpty, cs.dropWhile (!isAuthorityEnd ·))

def ofChars? (cs : List Char) : Option Uri :=
  match cs with
  | [] => none
  | ['*'] => some ⟨"*", none⟩
  | '/' :: _ =>
    (ofPathAndQuery? cs).map fun (path, query) =>
      ⟨String.ofList path, query.map String.ofList⟩
  | _ => do
    match ← afterScheme? cs with
    | none =>
      let (_, rest) ← afterAuthority? cs
      if rest.isEmpty then some ⟨"", none⟩ else none
    | some target =>
      let (isEmpty, rest) ← afterAuthority? target
      if isEmpty then none
      else
        let (path, query) ← ofPathAndQuery? rest
        return ⟨if path.isEmpty then "/" else String.ofList path, query.map String.ofList⟩

/-- The target that a text writes. -/
def parse? (s : String) : Option Uri :=
  if s.utf8ByteSize ≤ maxLength then ofChars? s.toList else none

end Uri

end FacetSearch
