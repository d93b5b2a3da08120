import FacetSearch.Proofs.Json.Integers
import FacetSearch.Proofs.Settings.Places
import FacetSearch.Proofs.Settings.Valid
import FacetSearch.Proofs.Text.LowerCase

/-!
# Texts from the environment

What a variable of the environment gives is taken for a truth value or a number if it can be one. A
setting that is a text is then given the text of that value. It is the one of the variable only if
this is how the value is written. Texts from a file stay as they are.
-/

namespace FacetSearch

namespace Text

lemma natural?_eq {cs : List Char} (hne : cs ≠ []) (h : ∀ c ∈ cs, c.isDigit = true) :
    natural? cs = some (Nat.ofDigitChars 10 cs 0) := by
  have hfold (cs : List Char) (h : ∀ c ∈ cs, c.isDigit = true) (n : Nat) :
      cs.foldlM (fun n c => if c.isDigit then some (n * 10 + (c.toNat - '0'.toNat)) else none) n =
        some (Nat.ofDigitChars 10 cs n) := by
    induction cs generalizing n with
    | nil => rfl
    | cons c cs ih =>
      rw [List.forall_mem_cons] at h
      rw [List.foldlM_cons, if_pos h.1, Nat.ofDigitChars_cons, Nat.mul_comm 10]
      exact ih h.2 _
  rw [natural?, if_neg (by simpa using hne), hfold cs h 0]

lemma natural?_toDigits (n : Nat) : natural? (Nat.toDigits 10 n) = some n := by
  rw [natural?_eq Nat.toDigits_ne_nil JsonNumber.isDigit_of_mem_toDigits,
    Nat.ofDigitChars_ten_toDigits]

lemma fits_of_int64? {s : String} {n : Int} (h : int64? s = some n) : FitsInt64 n := by
  have hfits := of_decide_eq_true (Option.filter_eq_some_iff.mp h).2
  unfold FitsInt64 maxInt64
  omega

lemma int64?_of_digit {s : String} {c : Char} {cs : List Char} (hs : s.toList = c :: cs)
    (hc : c.isDigit = true) : int64? s = ((natural? s.toList).map Int.ofNat).filter fun n =>
      decide (-0x8000000000000000 ≤ n ∧ n < 0x8000000000000000) := by
  have hminus : c ≠ '-' := by
    rintro rfl
    cases hc
  have hplus : c ≠ '+' := by
    rintro rfl
    cases hc
  simp [int64?, hs, hminus, hplus]

/-- The signed integers of 64 bits are read back from their text. -/
lemma int64?_toString {n : Int} (h : FitsInt64 n) : int64? (toString n) = some n := by
  have hfits : -0x8000000000000000 ≤ n ∧ n < 0x8000000000000000 := by
    unfold FitsInt64 maxInt64 at h
    omega
  have htext := JsonNumber.toList_toString n
  by_cases hn : 0 ≤ n
  · have hvalue : Int.ofNat n.toNat = n := Int.toNat_of_nonneg hn
    have hne : Nat.toDigits 10 n.toNat ≠ [] := Nat.toDigits_ne_nil
    obtain ⟨c, cs, hdigits⟩ := List.exists_cons_of_ne_nil hne
    have hc : c.isDigit = true :=
      JsonNumber.isDigit_of_mem_toDigits c (hdigits ▸ List.mem_cons_self)
    rw [if_pos hn] at htext
    rw [int64?_of_digit (htext.trans hdigits) hc, htext, natural?_toDigits, Option.map_some, hvalue,
      Option.filter_some, if_pos (decide_eq_true hfits)]
  · have hvalue : -((-n).toNat : Int) = n := by omega
    rw [if_neg hn] at htext
    rw [int64?, htext]
    simp only [natural?_toDigits]
    change Option.filter _ (some (-((-n).toNat : Int))) = some n
    rw [hvalue, Option.filter_some, if_pos (decide_eq_true hfits)]

lemma isFixed_of_lt {c : Char} (h : c.toNat < 65) : IsFixed c := by
  have hnone : ∀ n < 65, caseShift lowerCaseRuns n = none := by decide
  refine isFixed_of_caseShift ?_ (hnone _ h)
  rintro rfl
  revert h
  decide

lemma lowerCase_toString (n : Int) : lowerCase (toString n) = toString n := by
  have hdigit {c : Char} (h : c.isDigit = true) : IsFixed c := by
    have hle : c.toNat ≤ 57 := (Char.isDigit_iff_toNat.mp h).2
    exact isFixed_of_lt (by omega)
  have hfixed : ∀ c ∈ (toString n).toList, IsFixed c := by
    obtain ⟨c, cs, htext, hc, hcs⟩ := JsonNumber.exists_toList_toString_eq n
    rw [htext, List.forall_mem_cons]
    refine ⟨?_, fun d hd => hdigit (hcs d hd)⟩
    rcases hc with hc | rfl
    · exact hdigit hc
    · exact isFixed_of_lt (by decide)
  rw [lowerCase, lowerCaseFrom_of_isFixed hfixed, String.ofList_toList]

end Text

namespace Settings

/-- The text that a setting is given for the text of a variable. -/
def reworded (text : String) : String :=
  if Text.lowerCase text = "true" then "true"
  else if Text.lowerCase text = "false" then "false"
  else match Text.int64? text with
    | some n => toString n
    | none => ((floatText? text).map DecimalLayout.plain.float).getD text

lemma lenientText?_variableValue {key : String} (h : key ≠ listKey) (text : String) :
    Coercion.lenientText? (variableValue key text) = some (reworded text) := by
  rw [variableValue, reworded]
  by_cases htrue : Text.lowerCase text = "true"
  · simp only [htrue]
    rfl
  by_cases hfalse : Text.lowerCase text = "false"
  · simp only [hfalse]
    rfl
  simp only [htrue, hfalse, if_false]
  cases Text.int64? text with
  | some n => rfl
  | none =>
    cases floatText? text with
    | some x => rfl
    | none => simp [h, Coercion.lenientText?]

/-- A text is written as it is read: a truth value in lower case, an integer by its digits alone, or
what is neither and, if it is a number at all, has the digits and the point of it. -/
def IsKept (text : String) : Prop :=
  text = "true" ∨ text = "false" ∨ (∃ n, FitsInt64 n ∧ text = toString n) ∨
    Text.lowerCase text ≠ "true" ∧ Text.lowerCase text ≠ "false" ∧ Text.int64? text = none ∧
      ∀ x ∈ floatText? text, DecimalLayout.plain.float x = text

lemma reworded_eq_self_iff (text : String) : reworded text = text ↔ IsKept text := by
  have hnumber (n : Int) : toString n ≠ "true" ∧ toString n ≠ "false" := by
    obtain ⟨c, cs, htext, hc, -⟩ := JsonNumber.exists_toList_toString_eq n
    constructor
    all_goals
      intro h
      rw [h] at htext
      cases htext
      revert hc
      decide
  constructor
  · intro h
    rw [reworded] at h
    split at h
    next => exact .inl h.symm
    next htrue =>
      split at h
      next => exact .inr (.inl h.symm)
      next hfalse =>
        cases hint : Text.int64? text with
        | some n =>
          rw [hint] at h
          exact .inr (.inr (.inl ⟨n, Text.fits_of_int64? hint, h.symm⟩))
        | none =>
          rw [hint] at h
          refine .inr (.inr (.inr ⟨htrue, hfalse, hint, fun x hx => ?_⟩))
          simpa only [Option.mem_def.mp hx, Option.map_some, Option.getD_some] using h
  · rintro (rfl | rfl | ⟨n, hn, rfl⟩ | ⟨htrue, hfalse, hint, hfloat⟩)
    · decide +kernel
    · decide +kernel
    · rw [reworded, Text.lowerCase_toString, if_neg (hnumber n).1, if_neg (hnumber n).2,
        Text.int64?_toString hn]
    · rw [reworded, if_neg htrue, if_neg hfalse, hint]
      cases hx : floatText? text with
      | none => rfl
      | some x => exact hfloat x hx

/-! ## Settings that are texts -/

/-- The settings that are texts. -/
def textLeaves : List Leaf :=
  [⟨"server", "host"⟩, ⟨"database", "url"⟩, ⟨"database", "test_database_url"⟩,
    ⟨"logging", "level"⟩, ⟨"logging", "file_directory"⟩, ⟨"logging", "file_prefix"⟩,
    ⟨"logging", "file_rotation"⟩, ⟨"logging", "service_name"⟩]

namespace Leaf

variable {p : Leaf} {tree value : Json} {text : String}

lemma mem_leaves (hp : p ∈ textLeaves) : p ∈ leaves := by
  revert p
  decide

lemma key_ne_listKey (hp : p ∈ textLeaves) : p.key ≠ listKey := by
  revert p
  decide

/-- A text is read from whatever is given for it, unless that is null. -/
lemma exists_text_field (hp : p ∈ textLeaves) : ∃ f, p.IsReadBy .lenient f ∧
    ∀ v, v ≠ .null → f.reread? (some v) = (Coercion.lenientText? v).map .string := by
  have hnullable (name : String) (v : Json) (hv : v ≠ .null) :
      (RecordField.nullable name Coercion.lenientText? .string).reread? (some v) =
        (Coercion.lenientText? v).map .string := by
    cases v with
    | null => exact absurd rfl hv
    | _ => rfl
  have hlogging {f : RecordField} (hf : f ∈ LoggingSettings.fields .lenient) :
      Leaf.IsReadBy ⟨"logging", f.name⟩ .lenient f := ⟨rfl, .inr (.inr (.inr ⟨rfl, hf⟩))⟩
  simp only [textLeaves, List.mem_cons, List.not_mem_nil, or_false] at hp
  rcases hp with rfl | rfl | rfl | rfl | rfl | rfl | rfl | rfl
  · exact ⟨_, ⟨rfl, .inl ⟨rfl, .head _⟩⟩, fun _ _ => rfl⟩
  · exact ⟨_, ⟨rfl, .inr (.inl ⟨rfl, .head _⟩)⟩, fun _ _ => rfl⟩
  · exact ⟨_, ⟨rfl, .inr (.inl ⟨rfl, .tail _ (.head _)⟩)⟩, hnullable _⟩
  · exact ⟨_, hlogging (List.getElem_mem (n := 0) (by decide)), fun _ _ => rfl⟩
  · exact ⟨_, hlogging (List.getElem_mem (n := 3) (by decide)), fun _ _ => rfl⟩
  · exact ⟨_, hlogging (List.getElem_mem (n := 4) (by decide)), fun _ _ => rfl⟩
  · exact ⟨_, hlogging (List.getElem_mem (n := 5) (by decide)), fun _ _ => rfl⟩
  · exact ⟨_, hlogging (List.getElem_mem (n := 6) (by decide)), fun _ _ => rfl⟩

lemma valueIn?_of_givenIn? {s : Settings} (hp : p ∈ textLeaves)
    (hread : read? .lenient tree = some s) (hgiven : p.givenIn? .lenient tree = some value)
    (htext : Coercion.lenientText? value = some text) : p.valueIn? s = some (.string text) := by
  obtain ⟨f, hf, hfield⟩ := exists_text_field hp
  have hvalue : value ≠ .null := by
    rintro rfl
    cases htext
  rw [valueIn?_eq hf hread, hgiven, hfield value hvalue, htext, Option.map_some]

/-- Variables give a text for a setting, and nothing else for it, its group or what would be
within it. -/
def IsSetTo (p : Leaf) (text : String) (environment : List (String × String)) : Prop :=
  p.IsSetBy environment ∧ ∀ entry ∈ environment, ∀ key ∈ variableKey? entry.1,
    key = p.key ∧ entry.2 = text ∨ p.IsAvoidedBy (KeyPath.ofText key)

instance (p : Leaf) (text : String) (environment : List (String × String)) :
    Decidable (p.IsSetTo text environment) := inferInstanceAs (Decidable (_ ∧ _))

lemma eq_or_isAvoidedBy_of_isSetTo {environment : List (String × String)}
    (hset : p.IsSetTo text environment) : ∀ entry ∈ environmentLayer environment,
      entry = (p.key, variableValue p.key text) ∨ p.IsAvoidedBy (KeyPath.ofText entry.1) := by
  intro entry hentry
  obtain ⟨⟨name, given⟩, hmem, hentry⟩ := List.mem_filterMap.mp hentry
  obtain ⟨key, hkey, rfl⟩ := Option.map_eq_some_iff.mp hentry
  exact (hset.2 _ hmem key hkey).imp_left fun ⟨hkey, htext⟩ => by rw [hkey, ← htext]

/-- The variables put the value of the text in its place, whatever was there. -/
lemma memberIn?_overlay_of_isSetTo {environment : List (String × String)} (hp : p ∈ leaves)
    (hset : p.IsSetTo text environment) (tree : Json) :
    p.memberIn? (overlay (environmentLayer environment) tree) =
      some (variableValue p.key text) := by
  have hlayer := eq_or_isAvoidedBy_of_isSetTo hset
  have hwhole : p.IsWholeIn (environmentLayer environment) := by
    intro entry hentry
    refine (hlayer entry hentry).imp_left ?_
    rintro rfl
    exact ⟨rfl, variableValue_ne_object p.key text⟩
  obtain ⟨value, hvalue, hmem⟩ := exists_lookup_reverse (isSetBy_iff.mp hset.1)
  rw [memberIn?_overlay hp hwhole, hvalue, Option.some_or]
  rcases hlayer _ hmem with heq | havoids
  · exact congrArg (some ·.2) heq
  · exact absurd rfl (key_ne_of_isAvoidedBy hp havoids)

end Leaf

variable {p : Leaf} {text : String} {environment : List (String × String)} {file : Option String}
  {s : Settings}

/-- A setting that is a text, and for which a variable gives a text, has the text that is made of
that one. The two are the same if and only if the variable has its text as the value would be
written. -/
theorem load?_text (hp : p ∈ textLeaves) (hset : p.IsSetTo text environment)
    (hload : load? file environment = some s) :
    p.valueIn? s = some (.string (reworded text)) ∧
      (p.valueIn? s = some (.string text) ↔ IsKept text) := by
  have hvalue : p.valueIn? s = some (.string (reworded text)) := by
    obtain ⟨tree, htree, hread⟩ := Option.bind_eq_some_iff.mp (load?_eq file environment ▸ hload)
    obtain ⟨members, rfl⟩ := exists_fileTree?_eq_object htree
    have hmember : p.memberIn? (overlay (environmentLayer environment) (.object members)) =
        some (variableValue p.key text) :=
      Leaf.memberIn?_overlay_of_isSetTo (Leaf.mem_leaves hp) hset (.object members)
    obtain ⟨merged, hmerged⟩ := exists_overlay_eq_object (environmentLayer environment) members
    rw [hmerged] at hmember hread
    exact Leaf.valueIn?_of_givenIn? hp hread (Leaf.givenIn?_of_memberIn? hmember)
      (lenientText?_variableValue (Leaf.key_ne_listKey hp) text)
  refine ⟨hvalue, ?_⟩
  rw [hvalue, ← reworded_eq_self_iff, Option.some.injEq, Json.string.injEq]

/-- A host that is neither a truth value nor a number. -/
theorem load?_text_host :
    let environment := [("CATALOG__SERVER__HOST", "10.0.0.1"), ("CATALOG__SERVER__PORT", "80")]
    let host : Leaf := ⟨"server", "host"⟩
    host.IsSetTo "10.0.0.1" environment ∧
      ∃ s, load? none environment = some s ∧ host.valueIn? s = some (.string "10.0.0.1") := by
  intro environment host
  have hset : host.IsSetTo "10.0.0.1" environment := by decide +kernel
  have hload : load? none environment = some { server := { host := "10.0.0.1", port := 80 } } := by
    decide +kernel
  have hkept : IsKept "10.0.0.1" := (reworded_eq_self_iff _).mp (by decide +kernel)
  exact ⟨hset, _, hload, (load?_text (by decide) hset hload).2.mpr hkept⟩

/-- Leading zeros are lost from a name that is all digits. -/
theorem zeros_lost_from_name :
    let environment := [("CATALOG__LOGGING__SERVICE_NAME", "007")]
    let name : Leaf := ⟨"logging", "service_name"⟩
    name ∈ textLeaves ∧ name.IsSetTo "007" environment ∧
      ∃ s, load? none environment = some s ∧ name.valueIn? s = some (.string "7") := by
  intro environment name
  have hload : load? none environment = some { logging := { serviceName := "7" } } := by
    decide +kernel
  exact ⟨by decide, by decide +kernel, _, hload, rfl⟩

/-- A text from a file stays as it is. -/
theorem load?_text_of_file {tree : Json} (hp : p ∈ textLeaves) (htree : fileTree? file = some tree)
    (hgiven : p.givenIn? .lenient tree = some (.string text)) (hload : load? file [] = some s) :
    p.valueIn? s = some (.string text) := by
  rw [load?_eq, htree, Option.bind_some] at hload
  exact Leaf.valueIn?_of_givenIn? hp hload hgiven rfl

end Settings

end FacetSearch
