import FacetSearch.Json.Basic
import FacetSearch.Paging

/-!
# Records in JSON

Reading typed values out of JSON. A record is an object whose members are its fields, or an
array that lists its fields in order; members that are no fields do not matter.
-/

namespace FacetSearch

namespace Json

def text? : Json → Option String
  | string s => some s
  | _ => none

def flag? : Json → Option Bool
  | bool b => some b
  | _ => none

/-- An integer from `low` to `high`. -/
def intIn? (low high : Int) : Json → Option Int
  | number (.int n) => if low ≤ n ∧ n ≤ high then some n else none
  | _ => none

/-- A signed 64-bit integer. -/
def int64? : Json → Option Int := intIn? (-maxInt64 - 1) maxInt64

/-- An array of values that are each read the same way. -/
def list? (read : Json → Option α) : Json → Option (List α)
  | array items => items.mapM read
  | _ => none

end Json

/-- The fields of a record, by name. -/
abbrev Record := List (String × Json)

namespace Record

/-- The fields of a record. As an array the record must be complete. -/
def ofJson? (names : List String) : Json → Option Record
  | .object members => some members
  | .array items => if items.length = names.length then some (names.zip items) else none
  | _ => none

/-- The fields of a record whose fields may all be missing. As an array the record may end
early. -/
def ofPartialJson? (names : List String) : Json → Option Record
  | .object members => some members
  | .array items => if items.length ≤ names.length then some (names.zip items) else none
  | _ => none

/-- A field that must be there. -/
def required? (r : Record) (name : String) (read : Json → Option α) : Option α :=
  (r.lookup name).bind read

/-- A field that may be missing or null. -/
def nullable? (r : Record) (name : String) (read : Json → Option α) : Option (Option α) :=
  match r.lookup name with
  | none => some none
  | some .null => some none
  | some v => (read v).map some

/-- A field with a value to take when it is missing. -/
def withDefault? (r : Record) (name : String) (value : α) (read : Json → Option α) : Option α :=
  match r.lookup name with
  | none => some value
  | some v => read v

end Record

end FacetSearch
