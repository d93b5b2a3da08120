import FacetSearch.Proofs.Sql.Fragment
import Mathlib.Data.List.Basic

/-!
# Places of values

What a database reads in the text of a statement: characters, and the numbered places at which
it puts the values. A fragment whose literal text keeps clear of dollar signs and of digits
after a value is read back exactly: its places are numbered from one upwards without a gap, and
filling them in gives its text with every value written where it stands.
-/

namespace FacetSearch

/-- What is read in the text of a statement. -/
inductive Token where
  | char (c : Char)
  | place (number : Nat)
deriving DecidableEq, Repr

namespace Token

/-- The tokens of a text. Digits directly after a dollar sign are the number of a place, of
which `pending` is what has been read. -/
def read : (pending : Option Nat) → List Char → List Token
  | none, [] => []
  | some n, [] => [place n]
  | none, c :: cs => if c = '$' then read (some 0) cs else char c :: read none cs
  | some n, c :: cs =>
    if c.isDigit then read (some (Nat.ofDigitChars 10 [c] n)) cs
    else place n :: if c = '$' then read (some 0) cs else char c :: read none cs

def number? : Token → Option Nat
  | char _ => none
  | place n => some n

/-- The text of a token once values are put into their places, the first into place one. -/
def filled (literal : Bind → String) (binds : List Bind) : Token → List Char
  | char c => [c]
  | place 0 => []
  | place (n + 1) => ((binds[n]?.map literal).getD "").toList

lemma read_plain {cs : List Char} (h : '$' ∉ cs) (rest : List Char) :
    read none (cs ++ rest) = cs.map char ++ read none rest := by
  induction cs with
  | nil => rfl
  | cons c cs ih =>
    rw [List.mem_cons, not_or] at h
    rw [List.cons_append, read, if_neg (Ne.symm h.1), ih h.2]
    rfl

lemma read_digits {ds : List Char} (h : ∀ d ∈ ds, d.isDigit = true) (n : Nat) (rest : List Char) :
    read (some n) (ds ++ rest) = read (some (Nat.ofDigitChars 10 ds n)) rest := by
  induction ds generalizing n with
  | nil => rw [Nat.ofDigitChars_nil, List.nil_append]
  | cons d ds ih =>
    have hd : d.isDigit = true := h d List.mem_cons_self
    rw [List.cons_append, read, if_pos hd, ih (fun e he => h e (List.mem_cons_of_mem d he)),
      ← Nat.ofDigitChars_append, List.singleton_append]

lemma read_pending {rest : List Char} (h : ∀ c ∈ rest.head?, c.isDigit = false) (n : Nat) :
    read (some n) rest = place n :: read none rest := by
  cases rest with
  | nil => rfl
  | cons c cs =>
    have hc : c.isDigit = false := h c rfl
    simp only [read, hc, Bool.false_eq_true, if_false]

lemma read_place {rest : List Char} (h : ∀ c ∈ rest.head?, c.isDigit = false) (n : Nat) :
    read none (("$" ++ toString n).toList ++ rest) = place n :: read none rest := by
  have hdigits : ∀ d ∈ Nat.toDigits 10 n, d.isDigit = true := fun d hd =>
    Nat.isDigit_of_mem_toDigits (by decide) (by decide) hd
  have htext : ("$" ++ toString n).toList ++ rest = '$' :: (Nat.toDigits 10 n ++ rest) := by simp
  rw [htext, read, if_pos rfl, read_digits hdigits, Nat.ofDigitChars_ten_toDigits, read_pending h]

end Token

namespace Statement

/-- The numbers of the places in the text of a statement, from left to right. -/
def places (s : Statement) : List Nat := (Token.read none s.sql.toList).filterMap Token.number?

/-- The text of a statement with each value, as `literal` writes it, in the place that has its
number. -/
def filled (s : Statement) (literal : Bind → String) : String :=
  String.ofList ((Token.read none s.sql.toList).flatMap (Token.filled literal s.binds))

end Statement

namespace Fragment

/-- Literal text follows, and it does not go on with a digit. -/
def EndsNumber : Fragment → Prop
  | .sql s :: _ => ∃ c ∈ s.toList.head?, c.isDigit = false
  | _ => False

/-- No literal text holds a dollar sign, and every value is followed by literal text that does
not lengthen its number. -/
def Closed : Fragment → Prop
  | [] => True
  | .sql s :: f => '$' ∉ s.toList ∧ Closed f
  | .value _ :: f => EndsNumber f ∧ Closed f

/-- Closed fragments can be read back, and so can those that add one value at the end. -/
def Legible (f : Fragment) : Prop := Closed f ∨ ∃ g b, Closed g ∧ f = g ++ [.value b]

/-- The tokens of a fragment when `bound` values come before it. -/
def tokens (bound : Nat) : Fragment → List Token
  | [] => []
  | .sql s :: f => s.toList.map .char ++ tokens bound f
  | .value _ :: f => .place (bound + 1) :: tokens (bound + 1) f

/-- The text of a fragment with every value written where it stands. -/
def inlined (literal : Bind → String) : Fragment → String
  | [] => ""
  | .sql s :: f => s ++ inlined literal f
  | .value b :: f => literal b ++ inlined literal f

lemma EndsNumber.append {f : Fragment} (h : EndsNumber f) (g : Fragment) : EndsNumber (f ++ g) := by
  match f, h with
  | .sql _ :: _, h => exact h

lemma Closed.append {f g : Fragment} (hf : Closed f) (hg : Closed g) : Closed (f ++ g) := by
  induction f with
  | nil => exact hg
  | cons piece f ih =>
    cases piece with
    | sql s => exact ⟨hf.1, ih hf.2⟩
    | value b => exact ⟨hf.1.append g, ih hf.2⟩

lemma EndsNumber.head {f : Fragment} (h : EndsNumber f) (bound : Nat) (rest : List Char) :
    ∀ c ∈ ((text bound f).toList ++ rest).head?, c.isDigit = false := by
  match f, h with
  | .sql s :: f, ⟨c, hhead, hc⟩ =>
    obtain ⟨cs, hs⟩ := List.head?_eq_some_iff.mp hhead
    intro d hd
    rw [text, String.toList_append, hs] at hd
    obtain rfl : c = d := by simpa using hd
    exact hc

/-- Reading the text of a closed fragment gives back its pieces. -/
lemma read_text {f : Fragment} (h : Closed f) (bound : Nat) (rest : List Char) :
    Token.read none ((text bound f).toList ++ rest) = tokens bound f ++ Token.read none rest := by
  induction f generalizing bound with
  | nil => simp [text, tokens]
  | cons piece f ih =>
    cases piece with
    | sql s =>
      rw [text, tokens, String.toList_append, List.append_assoc, Token.read_plain h.1, ih h.2,
        List.append_assoc]
    | value b =>
      rw [text, tokens, String.toList_append, List.append_assoc,
        Token.read_place (h.1.head (bound + 1) rest), ih h.2, List.cons_append]

@[simp] lemma tokens_append (bound : Nat) (f g : Fragment) :
    tokens bound (f ++ g) = tokens bound f ++ tokens (bound + (binds f).length) g := by
  induction f generalizing bound with
  | nil => simp [tokens]
  | cons piece f ih =>
    cases piece with
    | sql s => simp [tokens, ih]
    | value b =>
      have hnext : bound + 1 + (binds f).length = bound + ((binds f).length + 1) := by omega
      simp [tokens, ih, hnext]

@[simp] lemma inlined_append (literal : Bind → String) (f g : Fragment) :
    inlined literal (f ++ g) = inlined literal f ++ inlined literal g := by
  induction f with
  | nil => simp [inlined]
  | cons piece f ih =>
    cases piece <;> simp [inlined, ih, String.append_assoc]

/-- A legible fragment is read back from its text. -/
lemma Legible.read_statement {f : Fragment} (h : Legible f) :
    Token.read none f.statement.sql.toList = tokens 0 f := by
  rcases h with h | ⟨g, b, hg, rfl⟩
  · have hread := read_text h 0 []
    rw [List.append_nil] at hread
    rw [statement, hread]
    simp [Token.read]
  · have hlast : Token.read none (("$" ++ toString ((binds g).length + 1)).toList ++ []) =
        [.place ((binds g).length + 1)] := Token.read_place (by simp) _
    have hread := read_text hg 0 ("$" ++ toString ((binds g).length + 1)).toList
    rw [List.append_nil] at hlast
    rw [hlast] at hread
    rw [statement, text_append, tokens_append, String.toList_append]
    simp only [text, Nat.zero_add, String.append_empty, tokens]
    exact hread

lemma number?_tokens (bound : Nat) (f : Fragment) :
    (tokens bound f).filterMap Token.number? = List.range' (bound + 1) (binds f).length := by
  induction f generalizing bound with
  | nil => rfl
  | cons piece f ih =>
    cases piece with
    | sql s =>
      have hchars : (s.toList.map Token.char).filterMap Token.number? = [] := by
        rw [List.filterMap_eq_nil_iff]
        intro token htoken
        obtain ⟨c, -, rfl⟩ := List.mem_map.mp htoken
        rfl
      rw [tokens, List.filterMap_append, hchars, List.nil_append, ih, binds_sql_cons]
    | value b =>
      rw [tokens, List.filterMap_cons_some (by rfl), ih, binds_value_cons, List.length_cons,
        List.range'_succ]

/-- Filling in the places of a fragment gives its values back, whatever values come before. -/
lemma filled_tokens (literal : Bind → String) (before : List Bind) (f : Fragment) :
    (tokens before.length f).flatMap (Token.filled literal (before ++ binds f)) =
      (inlined literal f).toList := by
  induction f generalizing before with
  | nil => simp [tokens, inlined]
  | cons piece f ih =>
    cases piece with
    | sql s =>
      have hchars (bs : List Bind) :
          (s.toList.map Token.char).flatMap (Token.filled literal bs) = s.toList := by
        induction s.toList with
        | nil => rfl
        | cons c cs ih => simp [Token.filled, ih]
      rw [tokens, List.flatMap_append, hchars, binds_sql_cons, ih, inlined, String.toList_append]
    | value b =>
      have hrest := ih (before ++ [b])
      rw [List.length_append, List.length_singleton, List.append_assoc,
        List.singleton_append] at hrest
      have hplace : (before ++ b :: binds f)[before.length]? = some b := by simp
      rw [tokens, List.flatMap_cons, binds_value_cons, hrest, Token.filled, hplace, inlined,
        String.toList_append]
      rfl

/-- The places of a legible statement are numbered from one upwards, one for each value. -/
lemma Legible.places {f : Fragment} (h : Legible f) :
    f.statement.places = List.range' 1 f.statement.binds.length := by
  rw [Statement.places, h.read_statement, number?_tokens, statement]

/-- The values of a legible statement belong where they stand in the fragment. -/
lemma Legible.filled {f : Fragment} (h : Legible f) (literal : Bind → String) :
    f.statement.filled literal = inlined literal f := by
  have hfill := filled_tokens literal [] f
  rw [List.length_nil, List.nil_append] at hfill
  rw [Statement.filled, h.read_statement]
  simp only [statement]
  rw [hfill, String.ofList_toList]

end Fragment

end FacetSearch
