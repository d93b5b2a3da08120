import FacetSearch.Settings.Tree
import Mathlib.Data.List.Nodup
import Mathlib.Tactic.Lemma

/-!
# Settings one by one

Each setting is read on its own, from what is given for it or, if nothing is, from its default. So
settings that are given alike are read alike, whatever else is given.
-/

namespace FacetSearch

/-- One of the fields that are read together. -/
structure RecordField where
  name : String
  /-- From the value that is given, if one is, to the value as it is written once it is read. -/
  reread? : Option Json → Option Json

namespace RecordField

variable {α : Type}

/-- A field with a value to take when it is missing. -/
def withDefault (name : String) (value : α) (read : Json → Option α) (write : α → Json) :
    RecordField where
  name
  reread?
    | none => some (write value)
    | some v => (read v).map write

/-- A field that may be missing or null. -/
def nullable (name : String) (read : Json → Option α) (write : α → Json) : RecordField where
  name
  reread?
    | none => some .null
    | some .null => some .null
    | some v => (read v).map write

/-- The members that are written once the fields of a record are read. -/
def rereadAll? (r : Record) : List RecordField → Option (List (String × Json))
  | [] => some []
  | f :: fields =>
    (f.reread? (r.lookup f.name)).bind fun v => (rereadAll? r fields).map ((f.name, v) :: ·)

lemma map_withDefault? (r : Record) (name : String) (value : α) (read : Json → Option α)
    (write : α → Json) : (r.withDefault? name value read).map write =
      (withDefault name value read write).reread? (r.lookup name) := by
  rw [Record.withDefault?]
  cases r.lookup name <;> rfl

lemma map_nullable? (r : Record) (name : String) (read : Json → Option α) (write : α → Json) :
    (r.nullable? name read).map (Json.ofOption write) =
      (nullable name read write).reread? (r.lookup name) := by
  rw [Record.nullable?]
  cases r.lookup name with
  | none => rfl
  | some v =>
    cases v with
    | null => rfl
    | _ => exact Option.map_map ..

lemma name_withDefault (name : String) (value : α) (read : Json → Option α) (write : α → Json) :
    (withDefault name value read write).name = name := rfl

lemma name_nullable (name : String) (read : Json → Option α) (write : α → Json) :
    (nullable name read write).name = name := rfl

@[simp] lemma rereadAll?_nil (r : Record) : rereadAll? r [] = some [] := rfl

@[simp] lemma rereadAll?_withDefault (r : Record) (name : String) (value : α)
    (read : Json → Option α) (write : α → Json) (fields : List RecordField) :
    rereadAll? r (withDefault name value read write :: fields) =
      (r.withDefault? name value read).bind fun a =>
        (rereadAll? r fields).map ((name, write a) :: ·) := by
  rw [rereadAll?]
  exact (congrArg (Option.bind · _) (map_withDefault? ..).symm).trans Option.bind_map

@[simp] lemma rereadAll?_nullable (r : Record) (name : String) (read : Json → Option α)
    (write : α → Json) (fields : List RecordField) :
    rereadAll? r (nullable name read write :: fields) =
      (r.nullable? name read).bind fun a =>
        (rereadAll? r fields).map ((name, Json.ofOption write a) :: ·) := by
  rw [rereadAll?]
  exact (congrArg (Option.bind · _) (map_nullable? ..).symm).trans Option.bind_map

lemma lookup_of_rereadAll? {r : Record} {fields : List RecordField} {members : List (String × Json)}
    (h : rereadAll? r fields = some members) (hnodup : (fields.map name).Nodup) {f : RecordField}
    (hf : f ∈ fields) :
    ∃ v, f.reread? (r.lookup f.name) = some v ∧ members.lookup f.name = some v := by
  induction fields generalizing members with
  | nil => cases hf
  | cons first fields ih =>
    rw [List.map_cons, List.nodup_cons] at hnodup
    obtain ⟨v, hv, hrest⟩ := Option.bind_eq_some_iff.mp h
    obtain ⟨members, hmembers, rfl⟩ := Option.map_eq_some_iff.mp hrest
    rcases List.mem_cons.mp hf with rfl | hf
    · exact ⟨v, hv, by rw [List.lookup_cons, beq_self_eq_true]⟩
    · have hname : f.name ≠ first.name := fun heq => hnodup.1 (heq ▸ List.mem_map_of_mem hf)
      rw [List.lookup_cons, beq_false_of_ne hname]
      exact ih hmembers hnodup.2 hf

lemma rereadAll?_congr {r r' : Record} {fields : List RecordField}
    (h : ∀ f ∈ fields, f.reread? (r.lookup f.name) = f.reread? (r'.lookup f.name)) :
    rereadAll? r fields = rereadAll? r' fields := by
  induction fields with
  | nil => rfl
  | cons f fields ih =>
    rw [rereadAll?, rereadAll?, h f List.mem_cons_self,
      ih fun g hg => h g (List.mem_cons_of_mem f hg)]

/-- The fields tell how values of a type are read, one by one and written back under their
names. -/
structure Describe (c : Coercion) (fields : List RecordField) (names : List String)
    (read? : Json → Option α) (write : α → Json) (default : α) : Prop where
  names_eq : fields.map name = names
  nodup : names.Nodup
  map_read? : ∀ v, (read? v).map write =
    (c.group? names v).bind fun r => (rereadAll? r fields).map .object
  default_eq : (rereadAll? [] fields).map .object = some (write default)

namespace Describe

variable {c : Coercion} {fields : List RecordField} {names : List String} {read? : Json → Option α}
  {write : α → Json} {default : α} (h : Describe c fields names read? write default)
include h

lemma exists_record {v : Json} {a : α} (hread : read? v = some a) :
    ∃ r, c.group? names v = some r ∧ ∀ f ∈ fields, ∃ v,
      f.reread? (r.lookup f.name) = some v ∧ (write a).member? f.name = some v := by
  have hmap := h.map_read? v
  rw [hread, Option.map_some] at hmap
  obtain ⟨r, hr, hwritten⟩ := Option.bind_eq_some_iff.mp hmap.symm
  obtain ⟨members, hmembers, hobject⟩ := Option.map_eq_some_iff.mp hwritten
  refine ⟨r, hr, fun f hf => ?_⟩
  rw [← hobject, Json.member?]
  exact lookup_of_rereadAll? hmembers (h.names_eq ▸ h.nodup) hf

lemma member?_default {f : RecordField} (hf : f ∈ fields) :
    (write default).member? f.name = f.reread? none := by
  obtain ⟨members, hmembers, hobject⟩ := Option.map_eq_some_iff.mp h.default_eq
  obtain ⟨v, hv, hlookup⟩ := lookup_of_rereadAll? hmembers (h.names_eq ▸ h.nodup) hf
  rw [← hobject, Json.member?, hlookup]
  exact hv.symm

lemma map_read?_congr {members members' : List (String × Json)}
    (hgroup : ∀ members, c.group? names (.object members) = some members)
    (hfields : ∀ f ∈ fields, f.reread? (members.lookup f.name) =
      f.reread? (members'.lookup f.name)) :
    (read? (.object members)).map write = (read? (.object members')).map write := by
  rw [h.map_read?, h.map_read?, hgroup, hgroup, Option.bind_some, Option.bind_some,
    rereadAll?_congr hfields]

end Describe

end RecordField

open RecordField

namespace ServerSettings

/-- The fields of the group, each with its default. -/
def fields (c : Coercion) : List RecordField :=
  let d : ServerSettings := {}
  [withDefault "host" d.host c.text? .string,
    withDefault "port" d.port (c.unsigned? 16) fun n => .int n,
    withDefault "cors_origins" d.corsOrigins (Json.list? c.text?) .strings,
    withDefault "max_request_body_size" d.maxBodySize (c.unsigned? 64) fun n => .int n]

lemma describe (c : Coercion) : Describe c (fields c) fieldNames (read? c) toJson {} where
  names_eq := rfl
  nodup := by decide
  map_read? v := by
    simp [read?, fields, toJson, Option.map_bind, Function.comp_def]
  default_eq := rfl

end ServerSettings

namespace DatabaseSettings

def fields (c : Coercion) : List RecordField :=
  let d : DatabaseSettings := {}
  let write (n : Nat) : Json := .int n
  [withDefault "url" d.url c.text? .string,
    nullable "test_database_url" c.text? .string,
    withDefault "pool_min_size" d.poolMinSize (c.unsigned? 32) write,
    withDefault "pool_max_size" d.poolMaxSize (c.unsigned? 32) write,
    withDefault "pool_timeout_seconds" d.poolTimeoutSeconds (c.unsigned? 64) write,
    withDefault "statement_timeout_seconds" d.statementTimeoutSeconds (c.unsigned? 64) write]

lemma describe (c : Coercion) : Describe c (fields c) fieldNames (read? c) toJson {} where
  names_eq := rfl
  nodup := by decide
  map_read? v := by
    simp [read?, fields, toJson, Option.map_bind, Function.comp_def]
  default_eq := rfl

end DatabaseSettings

namespace SearchSettings

def fields (c : Coercion) : List RecordField :=
  let d : SearchSettings := {}
  [withDefault "default_page_size" d.defaultPageSize (c.signed? 64) .int,
    withDefault "max_page_size" d.maxPageSize (c.signed? 64) .int,
    withDefault "namespace_priority" d.namespaces (Json.list? (NamespaceTier.read? c))
      fun ns => .array (ns.map NamespaceTier.toJson),
    withDefault "fallback_namespace_tier" d.fallbackTier (c.signed? 32) .int]

lemma describe (c : Coercion) : Describe c (fields c) fieldNames (read? c) toJson {} where
  names_eq := rfl
  nodup := by decide
  map_read? v := by
    simp [read?, fields, toJson, Option.map_bind, Function.comp_def]
  default_eq := rfl

end SearchSettings

namespace LoggingSettings

def fields (c : Coercion) : List RecordField :=
  let d : LoggingSettings := {}
  [withDefault "level" d.level c.text? .string,
    withDefault "json" d.json c.flag? .bool,
    withDefault "file_enabled" d.fileEnabled c.flag? .bool,
    withDefault "file_directory" d.fileDirectory c.text? .string,
    withDefault "file_prefix" d.fileStem c.text? .string,
    withDefault "file_rotation" d.fileRotation c.text? .string,
    withDefault "service_name" d.serviceName c.text? .string]

lemma describe (c : Coercion) : Describe c (fields c) fieldNames (read? c) toJson {} where
  names_eq := rfl
  nodup := by decide
  map_read? v := by
    simp [read?, fields, toJson, Option.map_bind, Function.comp_def]
  default_eq := rfl

end LoggingSettings

namespace Settings

def fields (c : Coercion) : List RecordField :=
  [withDefault "server" {} (ServerSettings.read? c) ServerSettings.toJson,
    withDefault "database" {} (DatabaseSettings.read? c) DatabaseSettings.toJson,
    withDefault "search" {} (SearchSettings.read? c) SearchSettings.toJson,
    withDefault "logging" {} (LoggingSettings.read? c) LoggingSettings.toJson]

lemma describe (c : Coercion) : Describe c (fields c) fieldNames (read? c) toJson {} where
  names_eq := rfl
  nodup := by decide
  map_read? v := by
    simp [read?, fields, toJson, Option.map_bind, Function.comp_def]
  default_eq := rfl

/-! ## Single settings -/

/-- The groups of settings with the names of those in them. -/
def groups : List (String × List String) :=
  [("server", ServerSettings.fieldNames), ("database", DatabaseSettings.fieldNames),
    ("search", SearchSettings.fieldNames), ("logging", LoggingSettings.fieldNames)]

/-- Where a single setting is. -/
structure Leaf where
  group : String
  name : String
deriving DecidableEq, Repr

/-- All settings. A list of values is one setting. -/
def leaves : List Leaf := groups.flatMap fun (group, names) => names.map (⟨group, ·⟩)

namespace Leaf

variable {p : Leaf} {c : Coercion} {tree tree' : Json} {s s' : Settings}

/-- The value of a setting, as it is written. -/
def valueIn? (p : Leaf) (s : Settings) : Option Json :=
  (s.toJson.member? p.group).bind (Json.member? p.name)

/-- What a tree gives for a setting. The group may also be a list of its settings in order. -/
def givenIn? (p : Leaf) (c : Coercion) (tree : Json) : Option Json := do
  let r ← c.group? Settings.fieldNames tree
  let group ← r.lookup p.group
  let members ← c.group? ((groups.lookup p.group).getD []) group
  members.lookup p.name

/-- The field by which a setting is read in its group. -/
def IsReadBy (p : Leaf) (c : Coercion) (f : RecordField) : Prop :=
  f.name = p.name ∧
    (p.group = "server" ∧ f ∈ ServerSettings.fields c ∨
      p.group = "database" ∧ f ∈ DatabaseSettings.fields c ∨
      p.group = "search" ∧ f ∈ SearchSettings.fields c ∨
      p.group = "logging" ∧ f ∈ LoggingSettings.fields c)

lemma exists_isReadBy (hp : p ∈ leaves) (c : Coercion) : ∃ f, p.IsReadBy c f := by
  have hnames {names : List String} {fields : List RecordField}
      (heq : fields.map RecordField.name = names) (hname : p.name ∈ names) :
      ∃ f ∈ fields, f.name = p.name := by
    rw [← heq] at hname
    exact List.mem_map.mp hname
  obtain ⟨⟨group, names⟩, hgroup, hmem⟩ := List.mem_flatMap.mp hp
  obtain ⟨name, hname, rfl⟩ := List.mem_map.mp hmem
  simp only [groups, List.mem_cons, Prod.mk.injEq, List.not_mem_nil, or_false] at hgroup
  rcases hgroup with ⟨rfl, rfl⟩ | ⟨rfl, rfl⟩ | ⟨rfl, rfl⟩ | ⟨rfl, rfl⟩
  · obtain ⟨f, hf, heq⟩ := hnames (ServerSettings.describe c).names_eq hname
    exact ⟨f, heq, .inl ⟨rfl, hf⟩⟩
  · obtain ⟨f, hf, heq⟩ := hnames (DatabaseSettings.describe c).names_eq hname
    exact ⟨f, heq, .inr (.inl ⟨rfl, hf⟩)⟩
  · obtain ⟨f, hf, heq⟩ := hnames (SearchSettings.describe c).names_eq hname
    exact ⟨f, heq, .inr (.inr (.inl ⟨rfl, hf⟩))⟩
  · obtain ⟨f, hf, heq⟩ := hnames (LoggingSettings.describe c).names_eq hname
    exact ⟨f, heq, .inr (.inr (.inr ⟨rfl, hf⟩))⟩

/-- A setting in a group whose fields are described is read by its own field. -/
lemma valueIn?_of_describe {α : Type} {group : String} {fields : List RecordField}
    {names : List String} {read? : Json → Option α} {write : α → Json} {default : α}
    (h : RecordField.Describe c fields names read? write default)
    (hgroup : withDefault group default read? write ∈ Settings.fields c) {f : RecordField}
    (hf : f ∈ fields) (hread : Settings.read? c tree = some s) :
    (s.toJson.member? group).bind (Json.member? f.name) = f.reread? (do
      let r ← c.group? Settings.fieldNames tree
      let given ← r.lookup group
      let members ← c.group? names given
      members.lookup f.name) := by
  obtain ⟨r, hr, hgroups⟩ := (Settings.describe c).exists_record hread
  obtain ⟨v, hv, hmember⟩ := hgroups _ hgroup
  rw [name_withDefault] at hv hmember
  rw [hmember, hr, Option.bind_eq_bind, Option.bind_some, Option.bind_some]
  cases hgiven : r.lookup group with
  | none =>
    -- The whole group has its default, and with it each of its fields.
    rw [hgiven] at hv
    obtain rfl := Option.some.inj hv
    exact h.member?_default hf
  | some given =>
    rw [hgiven] at hv
    obtain ⟨a, ha, rfl⟩ := Option.map_eq_some_iff.mp hv
    obtain ⟨members, hmembers, hfields⟩ := h.exists_record ha
    obtain ⟨value, hvalue, hwritten⟩ := hfields f hf
    rw [hwritten, Option.bind_eq_bind, Option.bind_some, hmembers, Option.bind_some, hvalue]

lemma valueIn?_eq {f : RecordField} (hf : p.IsReadBy c f) (hread : read? c tree = some s) :
    p.valueIn? s = f.reread? (p.givenIn? c tree) := by
  obtain ⟨group, name⟩ := p
  obtain ⟨rfl, ⟨rfl, hf⟩ | ⟨rfl, hf⟩ | ⟨rfl, hf⟩ | ⟨rfl, hf⟩⟩ := hf
  · exact valueIn?_of_describe (ServerSettings.describe c) (by simp [Settings.fields]) hf hread
  · exact valueIn?_of_describe (DatabaseSettings.describe c) (by simp [Settings.fields]) hf hread
  · exact valueIn?_of_describe (SearchSettings.describe c) (by simp [Settings.fields]) hf hread
  · exact valueIn?_of_describe (LoggingSettings.describe c) (by simp [Settings.fields]) hf hread

lemma valueIn?_default {f : RecordField} (hf : p.IsReadBy c f) :
    p.valueIn? {} = f.reread? none := by
  obtain ⟨group, name⟩ := p
  obtain ⟨rfl, ⟨rfl, hf⟩ | ⟨rfl, hf⟩ | ⟨rfl, hf⟩ | ⟨rfl, hf⟩⟩ := hf
  · exact (ServerSettings.describe c).member?_default hf
  · exact (DatabaseSettings.describe c).member?_default hf
  · exact (SearchSettings.describe c).member?_default hf
  · exact (LoggingSettings.describe c).member?_default hf

/-- Settings that are given alike have the same value. -/
theorem valueIn?_congr (hp : p ∈ leaves) (hread : read? c tree = some s)
    (hread' : read? c tree' = some s') (hgiven : p.givenIn? c tree = p.givenIn? c tree') :
    p.valueIn? s = p.valueIn? s' := by
  obtain ⟨f, hf⟩ := exists_isReadBy hp c
  rw [valueIn?_eq hf hread, valueIn?_eq hf hread', hgiven]

/-- A setting that is not given has its default. -/
theorem valueIn?_of_givenIn?_eq_none (hp : p ∈ leaves) (hread : read? c tree = some s)
    (hgiven : p.givenIn? c tree = none) : p.valueIn? s = p.valueIn? {} := by
  obtain ⟨f, hf⟩ := exists_isReadBy hp c
  rw [valueIn?_eq hf hread, hgiven, valueIn?_default hf]

end Leaf

end Settings

/-! ## Settings from what is written of them -/

lemma Json.strings_injective : Function.Injective Json.strings := by
  intro ss ss' h
  have hitems : ss.map Json.string = ss'.map Json.string := Json.array.inj h
  exact List.map_injective_iff.mpr (fun s s' h => Json.string.inj h) hitems

lemma Json.ofOption_string_injective : Function.Injective (Json.ofOption Json.string) := by
  intro s s' h
  cases s with
  | none => cases s' <;> first | rfl | cases h
  | some s => cases s' <;> cases h; rfl

lemma Json.int_injective : Function.Injective Json.int := fun _ _ h =>
  JsonNumber.int.inj (Json.number.inj h)

lemma NamespaceTier.toJson_injective : Function.Injective NamespaceTier.toJson := by
  rintro ⟨⟩ ⟨⟩ h
  simpa [toJson, Json.int_injective.eq_iff] using h

lemma ServerSettings.toJson_injective : Function.Injective ServerSettings.toJson := by
  rintro ⟨⟩ ⟨⟩ h
  simpa [toJson, Json.int_injective.eq_iff, Json.strings_injective.eq_iff, Int.natCast_inj] using h

lemma DatabaseSettings.toJson_injective : Function.Injective DatabaseSettings.toJson := by
  rintro ⟨⟩ ⟨⟩ h
  simpa [toJson, Json.int_injective.eq_iff, Json.ofOption_string_injective.eq_iff,
    Int.natCast_inj] using h

lemma SearchSettings.toJson_injective : Function.Injective SearchSettings.toJson := by
  rintro ⟨⟩ ⟨⟩ h
  simpa [toJson, Json.int_injective.eq_iff,
    (List.map_injective_iff.mpr NamespaceTier.toJson_injective).eq_iff] using h

lemma LoggingSettings.toJson_injective : Function.Injective LoggingSettings.toJson := by
  rintro ⟨⟩ ⟨⟩ h
  simpa [toJson] using h

lemma Settings.toJson_injective : Function.Injective Settings.toJson := by
  rintro ⟨⟩ ⟨⟩ h
  simpa [toJson, ServerSettings.toJson_injective.eq_iff, DatabaseSettings.toJson_injective.eq_iff,
    SearchSettings.toJson_injective.eq_iff, LoggingSettings.toJson_injective.eq_iff] using h

end FacetSearch
