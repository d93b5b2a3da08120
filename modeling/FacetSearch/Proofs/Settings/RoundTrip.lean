import FacetSearch.Proofs.Entity.RoundTrip
import FacetSearch.Proofs.Json.Keys
import FacetSearch.Proofs.Settings.Fields

/-!
# Settings are read as they are written

Complete settings are read back from their JSON, and with them all that is exchanged in JSON is read
as it is written. What is said here of a record follows from the fields that describe it.
-/

namespace FacetSearch

open Coercion (strict fitsUnsigned fitsSigned)

/-! ## Types of fields -/

/-- Values in range are read from what is written of them, which can be read from its text too, and
what is read is in range. -/
structure IsCodec {α : Type} (depth : Nat) (read? : Json → Option α) (write : α → Json)
    (InRange : α → Prop) : Prop where
  injective : Function.Injective write
  read?_write : ∀ a, InRange a → read? (write a) = some a
  inRange : ∀ v a, read? v = some a → InRange a
  readable : ∀ a, InRange a → Json.Readable depth (write a)

namespace IsCodec

lemma text (depth : Nat) : IsCodec depth strict.text? .string fun _ => True where
  injective _ _ h := Json.string.inj h
  read?_write _ _ := rfl
  inRange _ _ _ := trivial
  readable _ _ := trivial

lemma flag (depth : Nat) : IsCodec depth strict.flag? .bool fun _ => True where
  injective _ _ h := Json.bool.inj h
  read?_write _ _ := rfl
  inRange _ _ _ := trivial
  readable _ _ := trivial

lemma unsigned (bits : Nat) (hbits : bits ≤ 64) (depth : Nat) :
    IsCodec depth (strict.unsigned? bits) (fun n => .int n) fun n => fitsUnsigned bits n where
  injective _ _ h := Int.natCast_inj.mp (Json.int_injective h)
  read?_write n h := by
    have hn : n < Nat.pow 2 bits := of_decide_eq_true h
    have hfits : (0 : Int) ≤ n ∧ (n : Int) ≤ (Nat.pow 2 bits - 1 : Nat) := by omega
    change (if _ then some (n : Int) else none).map Int.toNat = some n
    rw [if_pos hfits]
    rfl
  inRange v n h := by
    obtain ⟨m, hm, rfl⟩ := Option.map_eq_some_iff.mp h
    have hfits := Json.of_intIn? hm
    have hpos : 0 < Nat.pow 2 bits := Nat.pow_pos (by decide)
    exact decide_eq_true (by omega)
  readable n h := by
    have hn : n < 2 ^ bits := of_decide_eq_true h
    have hle : 2 ^ bits ≤ 2 ^ 64 := Nat.pow_le_pow_right (by decide) hbits
    rw [Json.int, Json.Readable]
    omega

lemma signed (bits : Nat) (hbits : bits ≤ 64) (depth : Nat) :
    IsCodec depth (strict.signed? bits) .int fun n => fitsSigned bits n where
  injective := Json.int_injective
  read?_write n h := by
    simp only [fitsSigned, Bool.and_eq_true, decide_eq_true_eq] at h
    exact if_pos ⟨h.2, by omega⟩
  inRange v n h := by
    have hfits := Json.of_intIn? h
    simp only [fitsSigned, Bool.and_eq_true, decide_eq_true_eq]
    omega
  readable n h := by
    simp only [fitsSigned, Bool.and_eq_true, decide_eq_true_eq, Nat.pow_eq] at h
    have hle : 2 ^ (bits - 1) ≤ 2 ^ 63 := Nat.pow_le_pow_right (by decide) (by omega)
    rw [Json.int, Json.Readable]
    omega

lemma list {α : Type} {depth : Nat} {read? : Json → Option α} {write : α → Json}
    {InRange : α → Prop} (h : IsCodec depth read? write InRange) :
    IsCodec (depth + 1) (Json.list? read?) (fun as => .array (as.map write))
      fun as => ∀ a ∈ as, InRange a where
  injective _ _ heq := List.map_injective_iff.mpr h.injective (Json.array.inj heq)
  read?_write _ has := Json.list?_array_map fun a ha => h.read?_write a (has a ha)
  inRange v as hread a ha := by
    obtain ⟨item, hitem⟩ := Json.of_mem_list? hread a ha
    exact h.inRange item a hitem
  readable _ has := Json.readableItems_map fun a ha => h.readable a (has a ha)

lemma texts (depth : Nat) :
    IsCodec (depth + 1) (Json.list? strict.text?) .strings fun _ => True where
  injective := (text depth).list.injective
  read?_write ss _ := (text depth).list.read?_write ss fun _ _ => trivial
  inRange _ _ _ := trivial
  readable ss _ := (text depth).list.readable ss fun _ _ => trivial

end IsCodec

/-! ## Described records -/

namespace RecordField

variable {α : Type} {depth : Nat} {f : RecordField} {name : String} {default : α}
  {read? : Json → Option α} {write : α → Json} {InRange : α → Prop}

/-- A written value of the field is read, and written as before. -/
def Keeps (f : RecordField) (v : Json) : Prop := f.reread? (some v) = some v

/-- What is written once the field is read is kept from then on, and can be read from its text. -/
structure IsSound (depth : Nat) (f : RecordField) : Prop where
  keeps : ∀ given v, f.reread? given = some v → f.Keeps v
  readable : ∀ v, f.Keeps v → Json.Readable depth v

lemma isSound_withDefault (h : IsCodec depth read? write InRange) (hdefault : InRange default) :
    (withDefault name default read? write).IsSound depth where
  keeps given v hv := by
    have hwritten {a : α} (ha : InRange a) : (read? (write a)).map write = some (write a) := by
      rw [h.read?_write a ha, Option.map_some]
    cases given with
    | none =>
      obtain rfl : write default = v := Option.some.inj hv
      exact hwritten hdefault
    | some given =>
      obtain ⟨a, ha, rfl⟩ := Option.map_eq_some_iff.mp hv
      exact hwritten (h.inRange given a ha)
  readable v hv := by
    obtain ⟨a, ha, rfl⟩ := Option.map_eq_some_iff.mp hv
    exact h.readable a (h.inRange _ a ha)

lemma keeps_withDefault (h : IsCodec depth read? write InRange) (a : α) :
    (withDefault name default read? write).Keeps (write a) ↔ InRange a := by
  constructor
  · intro hkeeps
    obtain ⟨b, hb, heq⟩ := Option.map_eq_some_iff.mp hkeeps
    exact h.injective heq ▸ h.inRange _ b hb
  · intro ha
    exact (congrArg (Option.map write) (h.read?_write a ha)).trans rfl

lemma isSound_nullable_text : (nullable name strict.text? .string).IsSound depth where
  keeps given v hv := by
    cases given with
    | none =>
      cases hv
      rfl
    | some given =>
      cases given
      all_goals cases hv
      all_goals rfl
  readable v hv := by
    cases v with
    | null | string => trivial
    | _ => cases hv

lemma keeps_nullable_text (s : Option String) :
    (nullable name strict.text? .string).Keeps (.ofOption .string s) := by
  cases s <;> rfl

/-- A record as it is written, each of whose fields keeps its value. -/
def Kept (fields : List RecordField) (v : Json) : Prop :=
  ∃ members, v = .object members ∧
    List.Forall₂ (fun f m => f.name = m.1 ∧ f.Keeps m.2) fields members

@[simp] lemma kept_nil : Kept [] (.object []) := ⟨[], rfl, .nil⟩

@[simp] lemma kept_cons {fields : List RecordField} {k : String} {v : Json}
    {members : List (String × Json)} : Kept (f :: fields) (.object ((k, v) :: members)) ↔
      (f.name = k ∧ f.Keeps v) ∧ Kept fields (.object members) := by
  simp [Kept]

variable {fields : List RecordField} {members : List (String × Json)}

lemma forall₂_keeps_of_rereadAll? {r : Record} (hsound : ∀ f ∈ fields, f.IsSound depth)
    (h : rereadAll? r fields = some members) :
    List.Forall₂ (fun f m => f.name = m.1 ∧ f.Keeps m.2) fields members := by
  induction fields generalizing members with
  | nil =>
    cases h
    exact .nil
  | cons f fields ih =>
    rw [List.forall_mem_cons] at hsound
    obtain ⟨v, hv, hrest⟩ := Option.bind_eq_some_iff.mp h
    obtain ⟨rest, hmembers, rfl⟩ := Option.map_eq_some_iff.mp hrest
    exact .cons ⟨rfl, hsound.1.keeps _ v hv⟩ (ih hsound.2 hmembers)

/-- The fields are read from any record that has their values. -/
lemma rereadAll?_of_forall₂ {r : Record}
    (h : List.Forall₂ (fun f m => f.name = m.1 ∧ f.Keeps m.2) fields members)
    (hlookup : ∀ m ∈ members, r.lookup m.1 = some m.2) : rereadAll? r fields = some members := by
  induction h with
  | nil => rfl
  | @cons f m fields members hm _ ih =>
    obtain ⟨hname, hkeeps⟩ := hm
    rw [List.forall_mem_cons] at hlookup
    rw [rereadAll?, hname, hlookup.1, ih hlookup.2, hkeeps]
    rfl

lemma map_fst_of_forall₂
    (h : List.Forall₂ (fun f m => f.name = m.1 ∧ f.Keeps m.2) fields members) :
    members.map Prod.fst = fields.map RecordField.name := by
  induction h with
  | nil => rfl
  | cons hm _ ih => rw [List.map_cons, List.map_cons, hm.1, ih]

lemma Kept.readable {v : Json} (h : Kept fields v) (hnodup : (fields.map RecordField.name).Nodup)
    (hsound : ∀ f ∈ fields, f.IsSound depth) : v.Readable (depth + 1) := by
  obtain ⟨members, rfl, hmembers⟩ := h
  refine ⟨map_fst_of_forall₂ hmembers ▸ hnodup, ?_⟩
  clear hnodup
  induction hmembers with
  | nil => trivial
  | cons hm _ ih =>
    rw [List.forall_mem_cons] at hsound
    exact ⟨hsound.1.readable _ hm.2, ih hsound.2⟩

/-- A record is written and read as its fields are. -/
lemma Describe.isCodec {names : List String}
    (h : Describe strict fields names read? write default) (hinjective : Function.Injective write)
    (hsound : ∀ f ∈ fields, f.IsSound depth) (hkept : ∀ a, Kept fields (write a) ↔ InRange a) :
    IsCodec (depth + 1) read? write InRange where
  injective := hinjective
  read?_write a ha := by
    obtain ⟨members, hmembers, hkeeps⟩ := (hkept a).mpr ha
    have hnodup : (members.map Prod.fst).Nodup := by
      rw [map_fst_of_forall₂ hkeeps, h.names_eq]
      exact h.nodup
    have hall : rereadAll? members fields = some members :=
      rereadAll?_of_forall₂ hkeeps fun m hm => (Json.lookup_eq_some_iff hnodup).mpr hm
    refine Option.map_injective hinjective ?_
    rw [h.map_read?, hmembers]
    change (rereadAll? members fields).map Json.object = _
    rw [hall, Option.map_some, Option.map_some, hmembers]
  inRange v a hread := by
    have hmap := h.map_read? v
    rw [hread, Option.map_some] at hmap
    obtain ⟨r, -, hwritten⟩ := Option.bind_eq_some_iff.mp hmap.symm
    obtain ⟨members, hmembers, hobject⟩ := Option.map_eq_some_iff.mp hwritten
    exact (hkept a).mp ⟨members, hobject.symm, forall₂_keeps_of_rereadAll? hsound hmembers⟩
  readable a ha := ((hkept a).mpr ha).readable (h.names_eq ▸ h.nodup) hsound

end RecordField

open RecordField

/-! ## Settings -/

namespace NamespaceTier

def Fits (n : NamespaceTier) : Prop := fitsSigned 32 n.tier

instance (n : NamespaceTier) : Decidable n.Fits := inferInstanceAs (Decidable (_ = true))

lemma isCodec (depth : Nat) : IsCodec (depth + 1) (read? strict) toJson Fits where
  injective := toJson_injective
  read?_write n h := by
    have htier : strict.signed? 32 (.int n.tier) = some n.tier :=
      (IsCodec.signed 32 (by decide) 0).read?_write n.tier h
    have hstem : strict.text? (.string n.stem) = some n.stem := rfl
    have hrecord (members : List (String × Json)) :
        strict.record? fieldNames (.object members) = some members := rfl
    simp [read?, toJson, hrecord, Record.required?_cons_self, Record.required?_cons_of_ne, hstem,
      htier]
  inRange v n h := by
    obtain ⟨r, -, h⟩ := Option.bind_eq_some_iff.mp h
    simp only [Option.bind_eq_bind, Option.bind_eq_some_iff] at h
    obtain ⟨_, -, _, htier, heq⟩ := h
    cases heq
    obtain ⟨v, hv⟩ := r.exists_of_required? _ htier
    exact (IsCodec.signed 32 (by decide) 0).inRange v _ hv
  readable n h := by
    have htier : Json.Readable depth (.int n.tier) :=
      (IsCodec.signed 32 (by decide) depth).readable n.tier h
    exact ⟨by simp, trivial, htier, trivial⟩

end NamespaceTier

namespace ServerSettings

structure Fits (s : ServerSettings) : Prop where
  port : fitsUnsigned 16 s.port
  maxBodySize : fitsUnsigned 64 s.maxBodySize

lemma isCodec (depth : Nat) : IsCodec (depth + 2) (read? strict) toJson Fits := by
  have htext := IsCodec.text (depth + 1)
  have hport := IsCodec.unsigned 16 (by decide) (depth + 1)
  have horigins := IsCodec.texts depth
  have hsize := IsCodec.unsigned 64 (by decide) (depth + 1)
  refine (describe strict).isCodec toJson_injective ?_ fun s => ?_
  · simp only [fields, List.forall_mem_cons]
    exact ⟨isSound_withDefault htext trivial, isSound_withDefault hport (by decide),
      isSound_withDefault horigins trivial, isSound_withDefault hsize (by decide),
      List.forall_mem_nil _⟩
  · simp only [toJson, fields, kept_cons, kept_nil, name_withDefault, keeps_withDefault htext,
      keeps_withDefault hport, keeps_withDefault horigins, keeps_withDefault hsize, true_and,
      and_true]
    exact ⟨fun h => ⟨h.1, h.2⟩, fun h => ⟨h.port, h.maxBodySize⟩⟩

end ServerSettings

namespace DatabaseSettings

structure Fits (s : DatabaseSettings) : Prop where
  poolMinSize : fitsUnsigned 32 s.poolMinSize
  poolMaxSize : fitsUnsigned 32 s.poolMaxSize
  poolTimeoutSeconds : fitsUnsigned 64 s.poolTimeoutSeconds
  statementTimeoutSeconds : fitsUnsigned 64 s.statementTimeoutSeconds

lemma isCodec (depth : Nat) : IsCodec (depth + 1) (read? strict) toJson Fits := by
  have htext := IsCodec.text depth
  have hsize := IsCodec.unsigned 32 (by decide) depth
  have hseconds := IsCodec.unsigned 64 (by decide) depth
  refine (describe strict).isCodec toJson_injective ?_ fun s => ?_
  · simp only [fields, List.forall_mem_cons]
    exact ⟨isSound_withDefault htext trivial, isSound_nullable_text,
      isSound_withDefault hsize (by decide), isSound_withDefault hsize (by decide),
      isSound_withDefault hseconds (by decide), isSound_withDefault hseconds (by decide),
      List.forall_mem_nil _⟩
  · simp only [toJson, fields, kept_cons, kept_nil, name_withDefault, name_nullable,
      keeps_withDefault htext, keeps_nullable_text, keeps_withDefault hsize,
      keeps_withDefault hseconds, true_and, and_true]
    exact ⟨fun h => ⟨h.1, h.2.1, h.2.2.1, h.2.2.2⟩, fun h =>
      ⟨h.poolMinSize, h.poolMaxSize, h.poolTimeoutSeconds, h.statementTimeoutSeconds⟩⟩

end DatabaseSettings

namespace SearchSettings

structure Fits (s : SearchSettings) : Prop where
  defaultPageSize : fitsSigned 64 s.defaultPageSize
  maxPageSize : fitsSigned 64 s.maxPageSize
  namespaces : ∀ n ∈ s.namespaces, n.Fits
  fallbackTier : fitsSigned 32 s.fallbackTier

lemma isCodec (depth : Nat) : IsCodec (depth + 3) (read? strict) toJson Fits := by
  have hsize := IsCodec.signed 64 (by decide) (depth + 2)
  have hnamespaces := (NamespaceTier.isCodec depth).list
  have htier := IsCodec.signed 32 (by decide) (depth + 2)
  refine (describe strict).isCodec toJson_injective ?_ fun s => ?_
  · simp only [fields, List.forall_mem_cons]
    exact ⟨isSound_withDefault hsize (by decide), isSound_withDefault hsize (by decide),
      isSound_withDefault hnamespaces (by decide), isSound_withDefault htier (by decide),
      List.forall_mem_nil _⟩
  · simp only [toJson, fields, kept_cons, kept_nil, name_withDefault, keeps_withDefault hsize,
      keeps_withDefault hnamespaces, keeps_withDefault htier, true_and, and_true]
    exact ⟨fun h => ⟨h.1, h.2.1, h.2.2.1, h.2.2.2⟩, fun h =>
      ⟨h.defaultPageSize, h.maxPageSize, h.namespaces, h.fallbackTier⟩⟩

end SearchSettings

namespace LoggingSettings

lemma isCodec (depth : Nat) : IsCodec (depth + 1) (read? strict) toJson fun _ => True := by
  have htext := IsCodec.text depth
  have hflag := IsCodec.flag depth
  refine (describe strict).isCodec toJson_injective ?_ fun s => ?_
  · simp only [fields, List.forall_mem_cons]
    exact ⟨isSound_withDefault htext trivial, isSound_withDefault hflag trivial,
      isSound_withDefault hflag trivial, isSound_withDefault htext trivial,
      isSound_withDefault htext trivial, isSound_withDefault htext trivial,
      isSound_withDefault htext trivial, List.forall_mem_nil _⟩
  · simp only [toJson, fields, kept_cons, kept_nil, name_withDefault, keeps_withDefault htext,
      keeps_withDefault hflag, true_and]

end LoggingSettings

namespace Settings

/-- The numbers fit the widths of their settings. -/
structure Fits (s : Settings) : Prop where
  server : s.server.Fits
  database : s.database.Fits
  search : s.search.Fits

lemma fits_default : Fits {} where
  server := ⟨by decide, by decide⟩
  database := ⟨by decide, by decide, by decide, by decide⟩
  search := ⟨by decide, by decide, by decide, by decide⟩

lemma isCodec (depth : Nat) : IsCodec (depth + 4) ofJson? toJson Fits := by
  have hserver := ServerSettings.isCodec (depth + 1)
  have hdatabase := DatabaseSettings.isCodec (depth + 2)
  have hsearch := SearchSettings.isCodec depth
  have hlogging := LoggingSettings.isCodec (depth + 2)
  refine (describe strict).isCodec toJson_injective ?_ fun s => ?_
  · simp only [fields, List.forall_mem_cons]
    exact ⟨isSound_withDefault hserver fits_default.server,
      isSound_withDefault hdatabase fits_default.database,
      isSound_withDefault hsearch fits_default.search, isSound_withDefault hlogging trivial,
      List.forall_mem_nil _⟩
  · simp only [toJson, fields, kept_cons, kept_nil, name_withDefault, keeps_withDefault hserver,
      keeps_withDefault hdatabase, keeps_withDefault hsearch, keeps_withDefault hlogging, true_and,
      and_true]
    exact ⟨fun h => ⟨h.1, h.2.1, h.2.2⟩, fun h => ⟨h.server, h.database, h.search⟩⟩

lemma roundTrips : RoundTrips toJson ofJson? Fits :=
  .of_inRange (isCodec 123).readable (isCodec 123).read?_write (isCodec 123).inRange

end Settings

/-! ## All formats -/

/-- Everything that is exchanged in JSON is read as it is written. -/
theorem json_formats_round_trip :
    RoundTrips Dataset.toJson Dataset.ofJson? Dataset.Fits ∧
      RoundTrips FlowJob.toJson FlowJob.ofJson? FlowJob.Fits ∧
      RoundTrips (ResultPage.toJson Dataset.toJson) (ResultPage.ofJson? Dataset.ofJson?)
        (ResultPage.Fits Dataset.Fits) ∧
      RoundTrips (ResultPage.toJson FlowJob.toJson) (ResultPage.ofJson? FlowJob.ofJson?)
        (ResultPage.Fits FlowJob.Fits) ∧
      RoundTrips Settings.toJson Settings.ofJson? Settings.Fits :=
  ⟨Dataset.roundTrips, FlowJob.roundTrips,
    ResultPage.roundTrips Dataset.roundTrips fun _ => Dataset.readable_toJson,
    ResultPage.roundTrips FlowJob.roundTrips fun _ => FlowJob.readable_toJson,
    Settings.roundTrips⟩

/-- A page of one flow that leaves out what may be left out, with the least and the greatest
numbers. -/
theorem json_formats_round_trip_page :
    let flow : FlowJob := {
      appCode := "etl", flowId := -maxInt64 - 1, flowName := "zażółć \x22\\\n", flowPath := none,
      flowGroup := some "", jobName := none, jobPath := none, jobType := none, displayName := "𝕏",
      link := "#", path := "etl/" }
    let page : ResultPage FlowJob := {
      count := maxInt64, page := 1, itemsPerPage := 10, totalPages := 0, isFlowJob := some false,
      data := [flow] }
    page.Fits FlowJob.Fits ∧
      Json.parse? (page.toJson FlowJob.toJson).text = some (page.toJson FlowJob.toJson) ∧
      ResultPage.ofJson? FlowJob.ofJson? (page.toJson FlowJob.toJson) = some page := by
  intro flow page
  have hfits : page.Fits FlowJob.Fits :=
    ⟨by decide, by decide, by decide, by decide, fun f hf => by
      rw [List.mem_singleton.mp hf]
      exact ⟨by decide, by decide⟩⟩
  obtain ⟨-, -, -, hpages, -⟩ := json_formats_round_trip
  exact ⟨hfits, hpages.parse?_text page hfits, hpages.read?_write page hfits⟩

end FacetSearch
