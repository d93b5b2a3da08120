import FacetSearch.Json.Reader
import FacetSearch.Json.Writer
import FacetSearch.Proofs.Json.Integers

/-!
# Tokens of written JSON

A text that is written for a value is read as the tokens of the value. A number or a word is only
complete when something follows that cannot belong to it, or when the text ends.
-/

namespace FacetSearch

namespace Json

/-! ## Reading up to a token -/

/-- From between tokens to between tokens, the characters are read as these tokens. -/
def ReadsAs (cs : List Char) (ts : List Token) : Prop :=
  ∀ read, cs.foldlM lexStep (.between, read) = some (.between, ts.reverse ++ read)

/-- The characters that may follow a value. -/
def delimiters : List Char := [',', ':', ']', '\x7d']

lemma of_mem_delimiters {c : Char} (h : c ∈ delimiters) :
    ¬ c.isAlpha = true ∧ ¬ isNumberChar c = true := by
  simp only [delimiters, List.mem_cons, List.not_mem_nil, or_false] at h
  rcases h with rfl | rfl | rfl | rfl <;> decide

/-- The tokens that the lexer has still to give, whether a delimiter comes next or nothing. -/
structure Lexer.Owes (state : Lexer) (ts : List Token) : Prop where
  finish : state.finish = some ts
  step : ∀ c ∈ delimiters,
    state.step c = (beginToken c).map fun (next, tokens) => (next, ts ++ tokens)

/-- From between tokens, the characters are read as these tokens, though the lexer may still owe
some of them. -/
def ReadsUpTo (cs : List Char) (ts : List Token) : Prop :=
  ∃ state done owed, ts = done ++ owed ∧ state.Owes owed ∧
    ∀ read, cs.foldlM lexStep (.between, read) = some (state, done.reverse ++ read)

lemma Lexer.owes_between : Lexer.between.Owes [] where
  finish := rfl
  step c _ := by
    rw [Lexer.step]
    exact Option.map_id'.symm

variable {cs cs' : List Char} {ts ts' : List Token}

lemma ReadsAs.readsUpTo (h : ReadsAs cs ts) : ReadsUpTo cs ts :=
  ⟨.between, ts, [], (List.append_nil ts).symm, Lexer.owes_between, h⟩

lemma ReadsAs.append (h : ReadsAs cs ts) (h' : ReadsAs cs' ts') :
    ReadsAs (cs ++ cs') (ts ++ ts') := by
  intro read
  rw [List.foldlM_append, h read]
  exact (h' _).trans (by rw [List.reverse_append, List.append_assoc])

lemma ReadsAs.append_readsUpTo (h : ReadsAs cs ts) (h' : ReadsUpTo cs' ts') :
    ReadsUpTo (cs ++ cs') (ts ++ ts') := by
  obtain ⟨state, done, owed, rfl, howes, hread⟩ := h'
  refine ⟨state, ts ++ done, owed, (List.append_assoc ..).symm, howes, fun read => ?_⟩
  rw [List.foldlM_append, h read]
  exact (hread _).trans (by rw [List.reverse_append, List.append_assoc])

/-- A delimiter completes what comes before it. -/
lemma ReadsUpTo.delimited (h : ReadsUpTo cs ts) {c : Char} {t : Token} (hc : c ∈ delimiters)
    (ht : beginToken c = some (.between, [t])) : ReadsAs (cs ++ [c]) (ts ++ [t]) := by
  obtain ⟨state, done, owed, rfl, howes, hread⟩ := h
  intro read
  rw [List.foldlM_append, hread read]
  change lexStep _ c >>= pure = _
  rw [bind_pure, lexStep, howes.step c hc, ht]
  simp

lemma ReadsUpTo.tokens?_eq (h : ReadsUpTo cs ts) : tokens? cs = some ts := by
  obtain ⟨state, done, owed, rfl, howes, hread⟩ := h
  simp [tokens?, hread [], howes.finish]

lemma readsAs_mark {c : Char} {t : Token} (h : beginToken c = some (.between, [t])) :
    ReadsAs [c] [t] := by
  intro read
  change lexStep _ c >>= pure = _
  rw [bind_pure, lexStep, Lexer.step, h]
  rfl

/-! ## Words and numbers -/

lemma Lexer.owes_word {read : List Char} {t : Token} (h : wordToken? read.reverse = some t) :
    (Lexer.word read).Owes [t] where
  finish := by rw [Lexer.finish, h, Option.map_some]
  step c hc := by
    rw [Lexer.step, if_neg (of_mem_delimiters hc).1, h]
    cases beginToken c <;> rfl

lemma Lexer.owes_number {read : List Char} {t : Token} (h : numberToken? read.reverse = some t) :
    (Lexer.number read).Owes [t] where
  finish := by rw [Lexer.finish, h, Option.map_some]
  step c hc := by
    rw [Lexer.step, if_neg (of_mem_delimiters hc).2, h]
    cases beginToken c <;> rfl

lemma readsUpTo_null : ReadsUpTo "null".toList [.scalar .null] :=
  ⟨_, [], _, rfl, Lexer.owes_word rfl, fun _ => rfl⟩

lemma readsUpTo_true : ReadsUpTo "true".toList [.scalar (.bool true)] :=
  ⟨_, [], _, rfl, Lexer.owes_word rfl, fun _ => rfl⟩

lemma readsUpTo_false : ReadsUpTo "false".toList [.scalar (.bool false)] :=
  ⟨_, [], _, rfl, Lexer.owes_word rfl, fun _ => rfl⟩

lemma foldlM_number (h : ∀ c ∈ cs, isNumberChar c = true) (begun : List Char)
    (read : List Token) :
    cs.foldlM lexStep (.number begun, read) = some (.number (cs.reverse ++ begun), read) := by
  induction cs generalizing begun with
  | nil => rfl
  | cons c cs ih =>
    have hc : isNumberChar c = true := h c List.mem_cons_self
    have hstep : lexStep (.number begun, read) c = some (.number (c :: begun), read) := by
      rw [lexStep, Lexer.step, if_pos hc]
      rfl
    rw [List.foldlM_cons, hstep]
    refine (ih (fun d hd => h d (List.mem_cons_of_mem c hd)) (c :: begun)).trans ?_
    rw [List.reverse_cons, List.append_assoc, List.singleton_append]

lemma readsUpTo_number {c : Char} {t : Token} (hc : c.isDigit = true ∨ c = '-')
    (hcs : ∀ d ∈ cs, isNumberChar d = true) (h : numberToken? (c :: cs) = some t) :
    ReadsUpTo (c :: cs) [t] := by
  have hblank : ¬ isBlankChar c = true := by
    rcases hc with hdigit | rfl
    · intro hblank
      simp only [isBlankChar, Bool.or_eq_true, beq_iff_eq, or_assoc] at hblank
      rcases hblank with rfl | rfl | rfl | rfl <;> cases hdigit
    · decide
  have hbegin : beginToken c = some (.number [c], []) := by
    rw [beginToken, if_neg hblank, if_pos (by simpa using hc)]
  refine ⟨.number (cs.reverse ++ [c]), [], [t], rfl, Lexer.owes_number ?_, fun read => ?_⟩
  · rw [List.reverse_append, List.reverse_reverse, List.reverse_singleton, List.singleton_append, h]
  · have hstep : lexStep (.between, read) c = some (.number [c], read) := by
      rw [lexStep, Lexer.step, hbegin]
      rfl
    rw [List.foldlM_cons, hstep]
    exact foldlM_number hcs [c] read

/-! ## Strings -/

/-- Inside a string, the characters are read as these. -/
def ReadsInside (cs ds : List Char) : Prop :=
  ∀ begun read, cs.foldlM lexStep (.string begun, read) = some (.string (ds.reverse ++ begun), read)

lemma ReadsInside.append {ds ds' : List Char} (h : ReadsInside cs ds) (h' : ReadsInside cs' ds') :
    ReadsInside (cs ++ cs') (ds ++ ds') := by
  intro begun read
  rw [List.foldlM_append, h begun read]
  exact (h' _ _).trans (by rw [List.reverse_append, List.append_assoc])

lemma hexValue?_hexDigit {n : Nat} (h : n < 16) : Text.hexValue? (hexDigit n) = some n := by
  revert n
  decide

lemma lexStep_unit (begun : List Char) (high : Option Nat) (count value n : Nat)
    (read : List Token) :
    lexStep (.unit begun high count value, read) (hexDigit (n % 16)) =
      if count < 3 then some (.unit begun high (count + 1) (value * 16 + n % 16), read)
      else (endUnit begun high (value * 16 + n % 16)).map (·, read) := by
  have hdigit : Text.hexValue? (hexDigit (n % 16)) = some (n % 16) :=
    hexValue?_hexDigit (Nat.mod_lt n (by decide))
  rw [lexStep, Lexer.step, hdigit]
  by_cases hcount : count < 3
  · simp [hcount]
  · cases h : endUnit begun high (value * 16 + n % 16) <;> simp [hcount, h]

/-- The four digits of a unit are read as its number. -/
lemma foldlM_unit {n : Nat} (h : n < 0x10000) (high : Option Nat) (begun : List Char)
    (read : List Token) :
    [hexDigit (n / 0x1000 % 16), hexDigit (n / 0x100 % 16), hexDigit (n / 16 % 16),
        hexDigit (n % 16)].foldlM lexStep (.unit begun high 0 0, read) =
      (endUnit begun high n).map (·, read) := by
  have hvalue : (((0 * 16 + n / 0x1000 % 16) * 16 + n / 0x100 % 16) * 16 + n / 16 % 16) * 16 +
      n % 16 = n := by omega
  simp only [List.foldlM_cons, List.foldlM_nil, lexStep_unit, Nat.reduceLT, if_true, if_false,
    Option.bind_eq_bind, Option.bind_some, Nat.reduceAdd, hvalue]
  exact Option.bind_fun_some _

lemma readsInside_self {c : Char} (hquote : c ≠ '\x22') (hescape : c ≠ '\\')
    (h : 0x20 ≤ c.toNat) : ReadsInside [c] [c] := by
  intro begun read
  change lexStep _ c >>= pure = _
  rw [bind_pure, lexStep, Lexer.step, if_neg hquote, if_neg hescape, if_neg (by omega)]
  rfl

lemma isScalar (c : Char) : c.toNat < 0xD800 ∨ 0xDFFF < c.toNat ∧ c.toNat < 0x110000 := c.valid

lemma readsInside_unitEscape {c : Char} (h : c.toNat < 0x10000) :
    ReadsInside (unitEscape c.toNat) [c] := by
  intro begun read
  have hscalar := isScalar c
  have hend : endUnit begun none c.toNat = some (.string (c :: begun)) := by
    rw [endUnit, if_neg (by omega), if_neg (by omega), Char.ofNat_toNat]
  refine (foldlM_unit h none begun read).trans ?_
  rw [hend]
  rfl

/-- A character beyond sixteen bits is written by two surrogates. -/
lemma readsInside_surrogates {c : Char} {n : Nat} (h : c.toNat = 0x10000 + n) :
    ReadsInside (unitEscape (0xD800 + n / 0x400) ++ unitEscape (0xDC00 + n % 0x400)) [c] := by
  intro begun read
  -- Characters end below `0x110000`, so both units are in the ranges of surrogates.
  have hscalar := isScalar c
  have hhigh : endUnit begun none (0xD800 + n / 0x400) =
      some (.lowEscape begun (0xD800 + n / 0x400)) := by
    rw [endUnit, if_pos (by omega)]
  have hlow : endUnit begun (some (0xD800 + n / 0x400)) (0xDC00 + n % 0x400) =
      some (.string (c :: begun)) := by
    have hvalue : 0x10000 + (0xD800 + n / 0x400 - 0xD800) * 0x400 +
        (0xDC00 + n % 0x400 - 0xDC00) = c.toNat := by omega
    simp only [endUnit]
    rw [if_pos (by omega), hvalue, Char.ofNat_toNat]
  have hfirst : (unitEscape (0xD800 + n / 0x400)).foldlM lexStep (.string begun, read) =
      some (.lowEscape begun (0xD800 + n / 0x400), read) :=
    (foldlM_unit (by omega) none begun read).trans (by rw [hhigh, Option.map_some])
  rw [List.foldlM_append, hfirst]
  exact (foldlM_unit (by omega) _ begun read).trans (by rw [hlow, Option.map_some]; rfl)

lemma readsInside_escapeChar (c : Char) : ReadsInside (escapeChar c) [c] := by
  rw [escapeChar]
  split
  next h =>
    rcases h with rfl | rfl <;> exact fun _ _ => rfl
  next h =>
    rw [not_or] at h
    -- Five control characters have a letter of their own, the others four digits.
    by_cases hletter : c ∈ ['\x08', '\x0c', '\n', '\r', '\t']
    · simp only [List.mem_cons, List.not_mem_nil, or_false] at hletter
      rcases hletter with rfl | rfl | rfl | rfl | rfl <;> exact fun _ _ => rfl
    · simp only [List.mem_cons, List.not_mem_nil, or_false, not_or] at hletter
      simp only [hletter, if_false]
      split
      next hcontrol => exact readsInside_unitEscape (by omega)
      next hplain => exact readsInside_self h.1 h.2 (by omega)

lemma readsInside_escapeToAscii (c : Char) : ReadsInside (escapeToAscii c) [c] := by
  rw [escapeToAscii]
  split
  next h =>
    rcases h with rfl | rfl <;> exact fun _ _ => rfl
  next h =>
    rw [not_or] at h
    split
    next hplain => exact readsInside_self h.1 h.2 hplain.1
    next =>
      split
      next hshort => exact readsInside_unitEscape hshort
      next hlong => exact readsInside_surrogates (by omega)

section Escape

variable {escape : Char → List Char} (hescape : ∀ c, ReadsInside (escape c) [c])
include hescape

lemma readsInside_flatMap (cs : List Char) : ReadsInside (cs.flatMap escape) cs := by
  induction cs with
  | nil => exact fun _ _ => rfl
  | cons c cs ih => exact (hescape c).append ih

lemma readsAs_quoted (s : String) : ReadsAs (quoted escape s) [.scalar (.string s)] := by
  intro read
  have hopen : lexStep (.between, read) '\x22' = some (.string [], read) := rfl
  have hclose (begun : List Char) : ['\x22'].foldlM lexStep (.string begun, read) =
      some (.between, .scalar (.string (String.ofList begun.reverse)) :: read) := rfl
  rw [quoted, List.cons_append, List.foldlM_cons, hopen]
  change List.foldlM lexStep (.string [], read) _ = _
  rw [List.foldlM_append, readsInside_flatMap hescape s.toList [] read]
  refine (hclose _).trans ?_
  rw [List.append_nil, List.reverse_reverse, String.ofList_toList]
  rfl

end Escape

/-! ## Values -/

mutual

/-- The tokens of the text of a value. -/
def tokens : Json → List Token
  | array items => .beginArray :: itemTokens items ++ [.endArray]
  | object members => .beginObject :: memberTokens members ++ [.endObject]
  | v => [.scalar v]

def itemTokens : List Json → List Token
  | [] => []
  | [v] => tokens v
  | v :: vs => tokens v ++ .comma :: itemTokens vs

def memberTokens : List (String × Json) → List Token
  | [] => []
  | [(k, v)] => .scalar (.string k) :: .colon :: tokens v
  | (k, v) :: ms => .scalar (.string k) :: .colon :: tokens v ++ .comma :: memberTokens ms

end

mutual

/-- No number of a value is a floating-point number or too large for one of 64 bits, no key stands
twice in an object, and there are at most so many containers within each other. -/
def Readable : Nat → Json → Prop
  | _, number (.int n) => -0x8000000000000000 ≤ n ∧ n < 0x10000000000000000
  | _, number (.float _) => False
  | depth + 1, array items => ReadableItems depth items
  | depth + 1, object members => (members.map Prod.fst).Nodup ∧ ReadableMembers depth members
  | 0, array _ => False
  | 0, object _ => False
  | _, _ => True

def ReadableItems : Nat → List Json → Prop
  | _, [] => True
  | depth, v :: vs => Readable depth v ∧ ReadableItems depth vs

def ReadableMembers : Nat → List (String × Json) → Prop
  | _, [] => True
  | depth, (_, v) :: ms => Readable depth v ∧ ReadableMembers depth ms

end

lemma readsUpTo_int {n : Int} (h : -0x8000000000000000 ≤ n ∧ n < 0x10000000000000000) :
    ReadsUpTo (toString n).toList [.scalar (.number (.int n))] := by
  obtain ⟨c, cs, htext, hc, hcs⟩ := JsonNumber.exists_toList_toString_eq n
  have hread := JsonNumber.ofChars?_toString h
  rw [htext] at hread ⊢
  exact readsUpTo_number hc (fun d hd => by simp [isNumberChar, hcs d hd])
    (by rw [numberToken?, hread, Option.map_some])

section Escape

variable {escape : Char → List Char}

mutual

/-- The text of a value is read as the tokens of the value. -/
theorem readsUpTo_chars (hescape : ∀ c, ReadsInside (escape c) [c]) {depth : Nat} {v : Json}
    (h : Readable depth v) :
    ReadsUpTo (chars escape v) (tokens v) := by
  match v, h with
  | null, _ => exact readsUpTo_null
  | bool true, _ => exact readsUpTo_true
  | bool false, _ => exact readsUpTo_false
  | number (.int n), h => exact readsUpTo_int h
  | string s, _ => exact (readsAs_quoted hescape s).readsUpTo
  | array items, h =>
    cases depth with
    | zero => cases h
    | succ depth =>
      -- The mark at the end completes the last item, so that nothing is owed after it.
      have hitems := (readsUpTo_itemChars hescape h).delimited (c := ']') (by decide) rfl
      exact ((readsAs_mark (c := '[') rfl).append hitems).readsUpTo
  | object members, h =>
    cases depth with
    | zero => cases h
    | succ depth =>
      have hmembers := (readsUpTo_memberChars hescape h.2).delimited (c := '\x7d') (by decide) rfl
      exact ((readsAs_mark (c := '\x7b') rfl).append hmembers).readsUpTo

theorem readsUpTo_itemChars (hescape : ∀ c, ReadsInside (escape c) [c]) {depth : Nat}
    {items : List Json} (h : ReadableItems depth items) :
    ReadsUpTo (itemChars escape items) (itemTokens items) := by
  match items, h with
  | [], _ => exact ReadsAs.readsUpTo fun _ => rfl
  | [v], h => exact readsUpTo_chars hescape h.1
  | v :: w :: vs, h =>
    have hv := (readsUpTo_chars hescape h.1).delimited (c := ',') (by decide) rfl
    have hvs := hv.append_readsUpTo (readsUpTo_itemChars hescape h.2)
    rw [List.append_assoc, List.append_assoc] at hvs
    exact hvs

theorem readsUpTo_memberChars (hescape : ∀ c, ReadsInside (escape c) [c]) {depth : Nat}
    {members : List (String × Json)}
    (h : ReadableMembers depth members) :
    ReadsUpTo (memberChars escape members) (memberTokens members) := by
  match members, h with
  | [], _ => exact ReadsAs.readsUpTo fun _ => rfl
  | [(k, v)], h =>
    have hk := (readsAs_quoted hescape k).readsUpTo.delimited (c := ':') (by decide) rfl
    have hv := hk.append_readsUpTo (readsUpTo_chars hescape h.1)
    rw [List.append_assoc] at hv
    exact hv
  | (k, v) :: m :: ms, h =>
    have hk := (readsAs_quoted hescape k).readsUpTo.delimited (c := ':') (by decide) rfl
    have hv := (readsUpTo_chars hescape h.1).delimited (c := ',') (by decide) rfl
    have hms := (hk.append hv).append_readsUpTo (readsUpTo_memberChars hescape h.2)
    simp only [List.append_assoc] at hms
    simp only [memberChars, List.append_assoc]
    exact hms

end

end Escape

end Json

end FacetSearch
