import FacetSearch.Http.Form
import FacetSearch.Http.Uri
import FacetSearch.Proofs.Text.Bytes

/-!
# Form-encoded texts

A text that is form-encoded is decoded to itself, and stands as one value in a query: it holds
nothing that separates parameters.
-/

namespace FacetSearch.Form

/-- The hexadecimal digit in upper case with this value. -/
def hexDigit (n : Nat) : Char := Char.ofNat (if n < 10 then 0x30 + n else 0x37 + n)

/-- A character that stands for itself in a form-encoded text. -/
def isUnreserved (c : Char) : Bool := c.isAlphanum || c ∈ ['*', '-', '.', '_']

def encodeByte (b : UInt8) : List Char :=
  let c := Char.ofNat b.toNat
  if isUnreserved c then [c]
  else if c = ' ' then ['+']
  else ['%', hexDigit (b.toNat / 16), hexDigit (b.toNat % 16)]

/-- The form-encoding of a text. -/
def encode (s : String) : String := String.ofList ((Bytes.ofText s).flatMap encodeByte)

/-! ## The characters of an encoded text -/

lemma forall_byte {p : UInt8 → Prop} (h : ∀ n < 256, p (UInt8.ofNat n)) (b : UInt8) : p b := by
  have hb : p (UInt8.ofNat b.toNat) := h b.toNat b.toNat_lt
  rwa [UInt8.ofNat_toNat] at hb

lemma hexValue?_hexDigit {n : Nat} (h : n < 16) :
    hexValue? (UInt8.ofNat (hexDigit n).toNat) = some n := by
  revert n
  decide

/-- Encoded characters may stand in a query, and do not separate its parts. -/
lemma encodeByte_chars (b : UInt8) :
    ∀ c ∈ encodeByte b, c.toNat < 128 ∧ Uri.isQueryChar c ∧ UInt8.ofNat c.toNat ≠ 0x26 := by
  have hall : (encodeByte b).all fun c =>
      decide (c.toNat < 128 ∧ Uri.isQueryChar c ∧ UInt8.ofNat c.toNat ≠ 0x26) := by
    revert b
    exact forall_byte (by decide +kernel)
  intro c hc
  exact of_decide_eq_true (List.all_eq_true.mp hall c hc)

lemma encoded_chars {bytes : Bytes} {c : Char} (h : c ∈ bytes.flatMap encodeByte) :
    c.toNat < 128 ∧ Uri.isQueryChar c ∧ UInt8.ofNat c.toNat ≠ 0x26 := by
  obtain ⟨b, -, hc⟩ := List.mem_flatMap.mp h
  exact encodeByte_chars b c hc

lemma isQueryChar_encode (s : String) : ∀ c ∈ (encode s).toList, Uri.isQueryChar c := by
  rw [encode, String.toList_ofList]
  intro c hc
  exact (encoded_chars hc).2.1

/-! ## Decoding -/

lemma percentDecode_cons {b : UInt8} (h : b ≠ 0x25) (rest : Bytes) :
    percentDecode (b :: rest) = b :: percentDecode rest := by
  rw [percentDecode.eq_def]
  exact if_neg h

lemma percentDecode_digits {high low : UInt8} {h l : Nat} (hhigh : hexValue? high = some h)
    (hlow : hexValue? low = some l) (rest : Bytes) :
    percentDecode (0x25 :: high :: low :: rest) = UInt8.ofNat (h * 16 + l) :: percentDecode rest := by
  rw [percentDecode, if_pos rfl, hhigh, hlow]

/-- The bytes of encoded characters, once every `+` has become a space. -/
def spaced (cs : List Char) : Bytes :=
  (cs.map fun c => UInt8.ofNat c.toNat).map fun x => if x = 0x2B then 0x20 else x

lemma spaced_append (cs ds : List Char) : spaced (cs ++ ds) = spaced cs ++ spaced ds := by
  rw [spaced, List.map_append, List.map_append]
  rfl

lemma spaced_encodeByte (b : UInt8) :
    spaced (encodeByte b) = [b] ∧ b ≠ 0x25 ∨
      spaced (encodeByte b) = [0x25, UInt8.ofNat (hexDigit (b.toNat / 16)).toNat,
        UInt8.ofNat (hexDigit (b.toNat % 16)).toNat] := by
  revert b
  exact forall_byte (by decide +kernel)

lemma percentDecode_encodeByte (b : UInt8) (rest : Bytes) :
    percentDecode (spaced (encodeByte b) ++ rest) = b :: percentDecode rest := by
  have hb : b.toNat < 256 := b.toNat_lt
  rcases spaced_encodeByte b with ⟨hself, hne⟩ | hdigits
  · rw [hself]
    exact percentDecode_cons hne rest
  · have hvalue : b.toNat / 16 * 16 + b.toNat % 16 = b.toNat := Nat.div_add_mod' _ _
    rw [hdigits]
    refine (percentDecode_digits (hexValue?_hexDigit (by omega)) (hexValue?_hexDigit (by omega))
      rest).trans ?_
    rw [hvalue, UInt8.ofNat_toNat]

lemma percentDecode_encoded (bytes : Bytes) :
    percentDecode (spaced (bytes.flatMap encodeByte)) = bytes := by
  induction bytes with
  | nil => rw [List.flatMap_nil, spaced, List.map_nil, List.map_nil, percentDecode]
  | cons b bytes ih => rw [List.flatMap_cons, spaced_append, percentDecode_encodeByte, ih]

lemma decode_encode (s : String) : decode (Bytes.ofText (encode s)) = s := by
  have hbytes : percentDecode
      ((Bytes.ofText (encode s)).map fun x => if x = 0x2B then 0x20 else x) = Bytes.ofText s := by
    rw [encode, Bytes.ofText_ofList fun c hc => (encoded_chars hc).1]
    exact percentDecode_encoded _
  rw [decode, hbytes, Bytes.textReplacing_ofText]

/-! ## Parameters -/

lemma parse_append (query rest : Bytes) :
    parse (query ++ 0x26 :: rest) = parse query ++ parse rest := by
  have hsplit : (query ++ 0x26 :: rest).splitOn 0x26 = query.splitOn 0x26 ++ rest.splitOn 0x26 :=
    List.splitOnP_append_cons query rest rfl
  rw [parse, hsplit, List.filter_append, List.map_append]
  rfl

/-- Parts of a query hold the parameters that each of them holds. -/
lemma parse_intercalate (parts : List Bytes) :
    parse ([0x26].intercalate parts) = parts.flatMap parse := by
  induction parts with
  | nil => rfl
  | cons part parts ih =>
    cases parts with
    | nil => simp
    | cons next parts =>
      rw [List.intercalate_cons_cons, List.append_assoc, List.singleton_append, parse_append, ih]
      exact List.flatMap_cons.symm

/-- A part of a query that gives a parameter a text as its value. -/
def part (name value : String) : String := name ++ "=" ++ encode value

lemma splitPair_append {name : Bytes} (hname : 0x3D ∉ name) (value : Bytes) :
    splitPair (name ++ 0x3D :: value) = (name, value) := by
  have hkept : ∀ b ∈ name, decide (b ≠ 0x3D) = true := by
    intro b hb
    exact decide_eq_true (ne_of_mem_of_not_mem hb hname)
  have htake : (name ++ 0x3D :: value).takeWhile (· ≠ 0x3D) = name := by
    rw [List.takeWhile_append_of_pos hkept, List.takeWhile_cons_of_neg (by simp), List.append_nil]
  have hdrop : (name ++ 0x3D :: value).dropWhile (· ≠ 0x3D) = 0x3D :: value := by
    rw [List.dropWhile_append_of_pos hkept, List.dropWhile_cons_of_neg (by simp)]
  rw [splitPair, htake, hdrop]
  rfl

lemma notMem_ofText_encode (s : String) : 0x26 ∉ Bytes.ofText (encode s) := by
  rw [encode, Bytes.ofText_ofList fun c hc => (encoded_chars hc).1]
  intro hmem
  obtain ⟨c, hc, heq⟩ := List.mem_map.mp hmem
  exact (encoded_chars hc).2.2 heq

lemma parse_part {name : String} (hpair : 0x3D ∉ Bytes.ofText name)
    (hpart : 0x26 ∉ Bytes.ofText name) (value : String) :
    parse (.ofText (part name value)) = [(decode (.ofText name), value)] := by
  have hbytes : Bytes.ofText (part name value) =
      Bytes.ofText name ++ 0x3D :: Bytes.ofText (encode value) := by
    rw [part, Bytes.ofText_append, Bytes.ofText_append, List.append_assoc]
    rfl
  have hwhole : 0x26 ∉ Bytes.ofText (part name value) := by
    rw [hbytes]
    simp [hpart, notMem_ofText_encode]
  rw [parse, List.splitOn_eq_singleton hwhole, hbytes, List.filter_cons_of_pos (by simp),
    List.filter_nil, List.map_singleton, splitPair_append hpair, decode_encode]

end FacetSearch.Form
