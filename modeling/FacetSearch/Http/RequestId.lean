import FacetSearch.Http.Message

/-!
# Request identifiers

Every response carries a fresh identifier. An acceptable identifier that the client gave
comes back beside it.
-/

namespace FacetSearch.RequestId

def header : String := "x-request-id"

def correlationHeader : String := "x-correlation-id"

/-- Longer identifiers of clients are not taken. -/
def maxLength : Nat := 128

/-- A visible character of ASCII. -/
def isGraphic (b : UInt8) : Bool := 0x21 ≤ b.toNat && b.toNat ≤ 0x7E

def isBlankByte (b : UInt8) : Bool := b.toNat = 0x20 || b.toNat = 0x09

/-- The bytes without the spaces and tabs at both ends. -/
def trim (v : Bytes) : Bytes :=
  ((v.dropWhile isBlankByte).reverse.dropWhile isBlankByte).reverse

/-- The identifier that the client gave: short, and visible ASCII throughout. -/
def ofClient? (headers : Headers) : Option Bytes :=
  (headers.first? header).bind fun v =>
    let id := trim v
    if id ≠ [] ∧ id.length ≤ maxLength ∧ id.all isGraphic then some id else none

/-- The response with its identifier, and that of the client if there is one. -/
def tag (fresh : String) (r : Request) (response : Response) : Response :=
  let response := response.withHeader header (.ofText fresh)
  match ofClient? r.headers with
  | some id => response.withHeader correlationHeader id
  | none => response

end FacetSearch.RequestId
