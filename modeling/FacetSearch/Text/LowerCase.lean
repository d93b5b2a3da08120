import FacetSearch.Text.CaseData

/-!
# Lower case

The lower-case form of a text by the full Unicode mappings. Two of them are not one
character to one character: `İ` becomes `i` with a dot above, and a capital sigma becomes
the final form at the end of a word.
-/

namespace FacetSearch.Text

/-- The shift to the lower-case form of a code point that a run maps. -/
def caseShift : List CaseRun → Nat → Option Int
  | [], _ => none
  | r :: rs, n =>
    if n < r.first then none
    else if n ≤ r.last ∧ (n - r.first) % r.step = 0 then some r.shift
    else caseShift rs n

/-- The lower-case form of one character on its own. -/
def lowerCaseChar (c : Char) : List Char :=
  if c = 'İ' then ['i', '\u0307']
  else match caseShift lowerCaseRuns c.toNat with
    | some d => [Char.ofNat (c.toNat + d).toNat]
    | none => [c]

def isCased (c : Char) : Bool := inRanges casedRanges c.toNat

def isCaseIgnorable (c : Char) : Bool := inRanges caseIgnorableRanges c.toNat

/-- Whether a cased character comes first once case-ignorable characters are passed over. -/
def casedAhead (cs : List Char) : Bool :=
  match cs.dropWhile isCaseIgnorable with
  | [] => false
  | c :: _ => isCased c

/-- A capital sigma stands at the end of a word: a cased character comes before it and none
after it, case-ignorable characters not counting. -/
def isFinalSigma (before after : List Char) : Bool := casedAhead before && !casedAhead after

/-- Lower-casing with the characters already passed, the nearest first. -/
def lowerCaseFrom (before : List Char) : List Char → List Char
  | [] => []
  | c :: cs =>
    (if c = 'Σ' then [if isFinalSigma before cs then 'ς' else 'σ'] else lowerCaseChar c) ++
      lowerCaseFrom (c :: before) cs

/-- The text in lower case. -/
def lowerCase (s : String) : String := String.ofList (lowerCaseFrom [] s.toList)

end FacetSearch.Text
