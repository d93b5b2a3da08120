import FacetSearch.Text.Bytes
import Mathlib.Tactic.Lemma

/-!
# Characters and bytes of texts

The characters of joined texts are those of the parts. The bytes of a text are those of its
characters one after the other, and they are read back as the text.
-/

namespace FacetSearch

namespace Text

/-- Joining adds nothing but what stands between the parts. -/
lemma mem_intercalate_of_ne {α : Type} {a separator : α} (h : a ≠ separator)
    (parts : List (List α)) : a ∈ [separator].intercalate parts ↔ ∃ part ∈ parts, a ∈ part := by
  induction parts with
  | nil => simp
  | cons part parts ih =>
    cases parts with
    | nil => simp
    | cons next parts =>
      rw [List.intercalate_cons_cons, List.append_assoc, List.mem_append, List.singleton_append,
        List.mem_cons, ih]
      simp [h]

end Text

namespace Bytes

lemma ofText_eq (s : String) : ofText s = s.toList.flatMap String.utf8EncodeChar := by
  have hbytes : s.toByteArray = (s.toList.flatMap String.utf8EncodeChar).toByteArray :=
    calc s.toByteArray
        = (String.ofList s.toList).toByteArray := by rw [String.ofList_toList]
      _ = (s.toList.flatMap String.utf8EncodeChar).toByteArray := String.toByteArray_ofList
  rw [ofText, String.toUTF8, hbytes, List.data_toByteArray]

@[simp] lemma ofText_append (s t : String) : ofText (s ++ t) = ofText s ++ ofText t := by
  rw [ofText_eq, ofText_eq, ofText_eq, String.toList_append, List.flatMap_append]

lemma ofText_intercalate (separator : String) (parts : List String) :
    ofText (separator.intercalate parts) =
      (ofText separator).intercalate (parts.map ofText) := by
  rw [ofText_eq, String.toList_intercalate]
  induction parts with
  | nil => rfl
  | cons part parts ih =>
    cases parts with
    | nil => simp [ofText_eq]
    | cons next parts =>
      rw [List.map_cons, List.map_cons, List.intercalate_cons_cons, List.flatMap_append,
        List.flatMap_append, ← List.map_cons, ih, List.map_cons, List.map_cons, List.map_cons,
        List.intercalate_cons_cons, ofText_eq, ofText_eq part]

/-- A character of ASCII is one byte. -/
lemma ofText_ofList {cs : List Char} (h : ∀ c ∈ cs, c.toNat < 128) :
    ofText (String.ofList cs) = cs.map fun c => UInt8.ofNat c.toNat := by
  rw [ofText_eq, String.toList_ofList]
  induction cs with
  | nil => rfl
  | cons c cs ih =>
    have hsize : c.utf8Size = 1 := by
      have hc : c.toNat < 128 := h c List.mem_cons_self
      rw [Char.utf8Size_eq_one_iff]
      exact UInt32.le_iff_toNat_le.mpr (Nat.le_of_lt_succ hc)
    rw [List.flatMap_cons, ih fun c hc => h c (List.mem_cons_of_mem _ hc), List.map_cons,
      String.utf8EncodeChar_eq_singleton hsize]
    rfl

@[simp] lemma text?_ofText (s : String) : text? (ofText s) = some s := by
  have hbytes : (⟨(ofText s).toArray⟩ : ByteArray) = s.toByteArray := by
    rw [ofText, String.toUTF8, Array.toArray_toList]
  rw [text?, hbytes, String.fromUTF8?, dif_pos s.isValidUTF8]
  rfl

lemma ofText_inj {s t : String} : ofText s = ofText t ↔ s = t := by
  constructor
  · intro h
    have htext := congrArg text? h
    rw [text?_ofText, text?_ofText] at htext
    exact Option.some.inj htext
  · exact congrArg ofText

@[simp] lemma textReplacing_ofText (s : String) : textReplacing (ofText s) = s := by
  rw [textReplacing, text?_ofText]

end Bytes

end FacetSearch
