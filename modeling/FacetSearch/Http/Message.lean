import FacetSearch.Http.Uri
import FacetSearch.Json.Basic
import FacetSearch.Metrics.Exposition
import FacetSearch.Text.Bytes

/-!
# Requests and responses
-/

namespace FacetSearch

/-- Header fields in order; names are in lower case and may be repeated. -/
abbrev Headers := List (String × Bytes)

namespace Headers

/-- The first value under a name. -/
def first? (h : Headers) (name : String) : Option Bytes := h.lookup name

/-- The fields with the only value under a name. -/
def set (h : Headers) (name : String) (value : Bytes) : Headers :=
  h.filter (·.1 ≠ name) ++ [(name, value)]

/-- Visible characters, spaces, tabs, and bytes beyond ASCII. -/
def isLegalValue (v : Bytes) : Bool :=
  v.all fun b => (32 ≤ b.toNat && b.toNat ≠ 127) || b.toNat = 9

/-- The characters of methods and of header names. -/
def isTokenChar (c : Char) : Bool :=
  c.isAlphanum || c ∈ ['!', '#', '$', '%', '&', '\x27', '*', '+', '-', '.', '^', '_', '\x60',
    '|', '~']

def isToken (s : String) : Bool := s ≠ "" && s.toList.all isTokenChar

/-- A field with its name in lower case, if both parts are legal. -/
def field? (name : String) (value : Bytes) : Option (String × Bytes) :=
  if isToken name && name.utf8ByteSize < 65536 && isLegalValue value then
    some (String.ofList (name.toList.map Char.toLower), value)
  else none

end Headers

structure Request where
  method : String
  uri : Uri
  headers : Headers
  body : Bytes
deriving DecidableEq, Repr

namespace Request

/-- The request with these parts, if all of them are well-formed. -/
def build? (method uri : String) (headers : List (String × Bytes)) (body : Bytes) :
    Option Request := do
  if Headers.isToken method then
    return {
      method
      uri := ← Uri.parse? uri
      headers := ← headers.mapM fun (name, value) => Headers.field? name value
      body }
  else none

end Request

inductive Body where
  | empty
  | json (value : Json)
  | text (content : String)
  | samples (lines : List SampleLine)

structure Response where
  status : Nat
  headers : Headers
  body : Body

namespace Response

def contentType : String := "content-type"

def json (status : Nat) (value : Json) : Response :=
  ⟨status, [(contentType, .ofText "application/json")], .json value⟩

def text (status : Nat) (content : String) : Response :=
  ⟨status, [(contentType, .ofText "text/plain; charset=utf-8")], .text content⟩

def empty (status : Nat) : Response := ⟨status, [], .empty⟩

def withHeader (r : Response) (name : String) (value : Bytes) : Response :=
  { r with headers := r.headers.set name value }

/-- The response without its body. -/
def withoutBody (r : Response) : Response := { r with body := .empty }

end Response

end FacetSearch
