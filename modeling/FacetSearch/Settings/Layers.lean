import FacetSearch.Json.Reader
import FacetSearch.Settings.KeyPath
import FacetSearch.Settings.Tree

/-!
# Layered settings

Settings come from the defaults, from a file and from the environment, each overriding the
one before it key by key. The layers are first merged into one tree of values, which then is
read.

The program keeps the entries of a layer, and those of an object in it, in hash maps, so that it may
merge them in any order. Here they are merged in the order of the text, and `Loads` has the outcomes
of all orders.
-/

namespace FacetSearch

namespace Settings

/-- The tree with the members of a layer merged in, each at the path that its key is. Of two keys
for one place the last counts. -/
def overlay (layer : List (String × Json)) (root : Json) : Json :=
  layer.foldl (fun tree (key, value) => assignAt value (KeyPath.ofText key) tree) root

/-! ## The file -/

mutual

/-- Integers beyond 64 signed bits are held as floating-point numbers. -/
def widen : Json → Json
  | .number (.int n) =>
    .number (if n ≤ maxInt64 then .int n else .float (Float.ofNat n.toNat))
  | .array items => .array (widenItems items)
  | .object members => .object (widenMembers members)
  | v => v

def widenItems : List Json → List Json
  | [] => []
  | v :: vs => widen v :: widenItems vs

def widenMembers : List (String × Json) → List (String × Json)
  | [] => []
  | (k, v) :: ms => (k, widen v) :: widenMembers ms

end

/-- The layer that the text of a file gives: a JSON object, possibly after a byte order
mark. -/
def fileLayer? (text : String) : Option (List (String × Json)) :=
  let text := match text.toList with
    | '\uFEFF' :: cs => String.ofList cs
    | _ => text
  match Json.parse? text with
  | some (.object members) => some (widenMembers members)
  | _ => none

/-- The layer of a file, which is empty without a file. -/
def layerOf? : Option String → Option (List (String × Json))
  | none => some []
  | some text => fileLayer? text

/-! ## The environment -/

/-- The number that a text writes with digits, optionally a point and an exponent. -/
def decimalFloat? (cs : List Char) : Option Float :=
  let (whole, rest) := JsonNumber.spanDigits cs
  let (fraction, rest) := match rest with
    | '.' :: rest => JsonNumber.spanDigits rest
    | _ => ([], rest)
  if whole.isEmpty && fraction.isEmpty then none
  else
    let exponent := match rest with
      | [] => some (false, [])
      | e :: rest => if e = 'e' ∨ e = 'E' then JsonNumber.exponentPart? rest else none
    exponent.map fun (down, digits) =>
      let n := JsonNumber.digitsValue (whole ++ fraction)
      let e : Int := JsonNumber.digitsValue digits
      let scale := (if down then -e else e) - fraction.length
      let leading := scale + whole.length + fraction.length
      if n = 0 ∨ leading < -400 then 0
      else if 400 + (whole.length + fraction.length : Nat) < leading then 1 / 0
      else Float.ofScientific n (scale < 0) scale.natAbs

/-- A floating-point number as a text writes it, with an optional sign; infinities and the
value that is no number have names. -/
def floatText? (s : String) : Option Float :=
  let (negative, cs) := match s.toList with
    | '-' :: cs => (true, cs)
    | '+' :: cs => (false, cs)
    | cs => (false, cs)
  let name := cs.map Char.toLower
  let magnitude :=
    if name = ['i', 'n', 'f'] ∨ name = ['i', 'n', 'f', 'i', 'n', 'i', 't', 'y'] then some (1 / 0)
    else if name = ['n', 'a', 'n'] then some (0 / 0)
    else decimalFloat? cs
  magnitude.map fun x => if negative then -x else x

/-- The one setting whose text is a list. -/
def listKey : String := "server.cors_origins"

/-- The value that the text of a variable is: a truth value, an integer, a floating-point
number, a list of texts, or the text itself. -/
def variableValue (key text : String) : Json :=
  let lower := Text.lowerCase text
  if lower = "true" then .bool true
  else if lower = "false" then .bool false
  else match Text.int64? text with
    | some n => .int n
    | none => match floatText? text with
      | some x => .number (.float x)
      | none =>
        if key = listKey then .strings ((text.toList.splitOn ',').map String.ofList)
        else .string text

/-- The marker at the start of the names of variables that are settings. -/
def marker : List Char := "catalog__".toList

/-- The text with every `__` replaced by a point. -/
def pointed : List Char → List Char
  | '_' :: '_' :: rest => '.' :: pointed rest
  | c :: rest => c :: pointed rest
  | [] => []

/-- The key of the setting that a variable of this name sets. -/
def variableKey? (name : String) : Option String :=
  let name := (Text.lowerCase name).toList
  if marker.isPrefixOf name then some (String.ofList (pointed (name.drop marker.length))) else none

/-- The layer that the variables of the environment give. -/
def environmentLayer (environment : List (String × String)) : List (String × Json) :=
  environment.filterMap fun (name, text) =>
    (variableKey? name).map fun key => (key, variableValue key text)

/-! ## All layers -/

/-- The settings from a file, if there is one, and the environment. -/
def load? (file : Option String) (environment : List (String × String)) : Option Settings := do
  let fileLayer ← layerOf? file
  read? .lenient (overlay (environmentLayer environment) (overlay fileLayer (.object [])))

mutual

/-- The value with the members of objects in another order. What an array holds stays as it is,
because arrays are not merged. -/
def Reorders : Json → Json → Prop
  | .object members, w => ∃ members', w = .object members' ∧ MembersReorder members members'
  | v, w => w = v

def MembersReorder : List (String × Json) → List (String × Json) → Prop
  | [], members' => members' = []
  | (key, value) :: members, members' => ∃ before value' after,
    members' = before ++ (key, value') :: after ∧ Reorders value value' ∧
      MembersReorder members (before ++ after)

end

/-- With some order of the entries of the file and of those of the environment this is what is
loaded, or none if that fails. -/
def Loads (file : Option String) (environment : List (String × String))
    (outcome : Option Settings) : Prop :=
  match layerOf? file with
  | none => outcome = none
  | some layer => ∃ layer' given, MembersReorder layer layer' ∧
    (environmentLayer environment).Perm given ∧
    outcome = read? .lenient (overlay given (overlay layer' (.object [])))

end Settings

end FacetSearch
