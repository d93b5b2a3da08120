import FacetSearch.Entity.Dataset
import FacetSearch.Entity.FlowJob
import FacetSearch.Entity.ResultPage
import FacetSearch.Proofs.Json.Parsing
import FacetSearch.Proofs.Settings.Valid

/-!
# Reading what is written

Datasets, flows and jobs, and pages of them are read back from their JSON. Their integers have 64
bits, and that is all that is asked of them.
-/

namespace FacetSearch

/-! ## Values that are written and read -/

/-- Values in range are read back from what is written of them, and from the text of it, be it in
ASCII or not. Whatever a value is read from, writing and reading it again changes neither the value
nor what is written. -/
structure RoundTrips {α : Type} (write : α → Json) (read? : Json → Option α)
    (InRange : α → Prop) : Prop where
  parse?_text : ∀ a, InRange a → Json.parse? (write a).text = some (write a)
  parse?_render : ∀ a, InRange a → Json.parse? (write a).render = some (write a)
  read?_write : ∀ a, InRange a → read? (write a) = some a
  reread : ∀ v a, read? v = some a →
    InRange a ∧ read? (write a) = some a ∧ (read? (write a)).map write = some (write a)

lemma RoundTrips.of_inRange {α : Type} {write : α → Json} {read? : Json → Option α}
    {InRange : α → Prop}
    (hreadable : ∀ a, InRange a → Json.Readable Json.maxDepth (write a))
    (hwrite : ∀ a, InRange a → read? (write a) = some a)
    (hread : ∀ v a, read? v = some a → InRange a) : RoundTrips write read? InRange where
  parse?_text a ha := Json.parse?_text (hreadable a ha)
  parse?_render a ha := Json.parse?_render (hreadable a ha)
  read?_write := hwrite
  reread v a h := by
    have hfits := hread v a h
    refine ⟨hfits, hwrite a hfits, ?_⟩
    rw [hwrite a hfits, Option.map_some]

namespace Json

lemma int64?_int {n : Int} (h : FitsInt64 n) : int64? (int n) = some n := if_pos h

lemma of_intIn? {low high n : Int} {v : Json} (h : intIn? low high v = some n) :
    low ≤ n ∧ n ≤ high := by
  cases v with
  | number m =>
    cases m with
    | int m =>
      obtain ⟨hfits, heq⟩ := Option.ite_none_right_eq_some.mp h
      exact Option.some.inj heq ▸ hfits
    | float x => cases h
  | _ => cases h

lemma list?_array_map {α : Type} {read : Json → Option α} {write : α → Json} {as : List α}
    (h : ∀ a ∈ as, read (write a) = some a) : list? read (.array (as.map write)) = some as := by
  change (as.map write).mapM read = some as
  induction as with
  | nil => rfl
  | cons a as ih =>
    rw [List.forall_mem_cons] at h
    rw [List.map_cons, List.mapM_cons, h.1, ih h.2]
    rfl

lemma of_mem_list? {α : Type} {read : Json → Option α} {v : Json} {as : List α}
    (h : list? read v = some as) : ∀ a ∈ as, ∃ v, read v = some a := by
  cases v with
  | array items =>
    change items.mapM read = some as at h
    induction items generalizing as with
    | nil =>
      cases h
      simp
    | cons v vs ih =>
      rw [List.mapM_cons] at h
      obtain ⟨a, ha, hrest⟩ := Option.bind_eq_some_iff.mp h
      obtain ⟨rest, hvs, heq⟩ := Option.bind_eq_some_iff.mp hrest
      cases heq
      exact List.forall_mem_cons.mpr ⟨⟨v, ha⟩, ih hvs⟩
  | _ => cases h

lemma readable_int {n : Int} (h : FitsInt64 n) (depth : Nat) : Readable depth (int n) := by
  rw [int, Readable]
  unfold FitsInt64 maxInt64 at h
  omega

lemma readableItems_map {α : Type} {write : α → Json} {as : List α} {depth : Nat}
    (h : ∀ a ∈ as, Readable depth (write a)) : ReadableItems depth (as.map write) := by
  induction as with
  | nil => exact trivial
  | cons a as ih =>
    rw [List.forall_mem_cons] at h
    exact ⟨h.1, ih h.2⟩

lemma readable_ofOption_string (depth : Nat) (s : Option String) :
    Readable depth (ofOption string s) := by
  cases s <;> exact trivial

end Json

namespace Record

variable {α : Type} (r : Record) {name k : String} (v : Json) (read : Json → Option α)

lemma required?_cons_self : required? ((name, v) :: r) name read = read v := by
  rw [required?, List.lookup_cons_self, Option.bind_some]

lemma required?_cons_of_ne (h : name ≠ k) :
    required? ((k, v) :: r) name read = required? r name read := by
  rw [required?, required?, List.lookup_cons, beq_false_of_ne h]

lemma nullable?_nil : nullable? [] name read = some none := rfl

lemma nullable?_cons_text (s : Option String) :
    nullable? ((name, Json.ofOption Json.string s) :: r) name Json.text? = some s := by
  rw [nullable?, List.lookup_cons_self]
  cases s <;> rfl

lemma nullable?_cons_flag (b : Bool) :
    nullable? ((name, Json.bool b) :: r) name Json.flag? = some (some b) := by
  rw [nullable?, List.lookup_cons_self]
  rfl

lemma nullable?_cons_of_ne (h : name ≠ k) :
    nullable? ((k, v) :: r) name read = nullable? r name read := by
  rw [nullable?, nullable?, List.lookup_cons, beq_false_of_ne h]

lemma exists_of_required? {a : α} (h : required? r name read = some a) : ∃ v, read v = some a := by
  obtain ⟨v, -, hv⟩ := Option.bind_eq_some_iff.mp h
  exact ⟨v, hv⟩

end Record

namespace Dataset

def Fits (d : Dataset) : Prop := FitsInt64 d.id

lemma ofJson?_toJson {d : Dataset} (h : d.Fits) : ofJson? d.toJson = some d := by
  simp [ofJson?, toJson, Record.ofJson?, Record.required?_cons_self, Record.required?_cons_of_ne,
    Record.nullable?_cons_text, Record.nullable?_cons_of_ne, Json.int64?_int h, Json.text?]

lemma fits_of_ofJson? {v : Json} {d : Dataset} (h : ofJson? v = some d) : d.Fits := by
  obtain ⟨r, -, h⟩ := Option.bind_eq_some_iff.mp h
  obtain ⟨id, hid, h⟩ := Option.bind_eq_some_iff.mp h
  simp only [Option.bind_eq_bind, Option.bind_eq_some_iff] at h
  obtain ⟨name, -, source, -, urn, -, schema, -, heq⟩ := h
  cases heq
  obtain ⟨v, hv⟩ := Record.exists_of_required? _ _ hid
  exact Json.of_intIn? hv

lemma readable_toJson {d : Dataset} (h : d.Fits) (depth : Nat) :
    Json.Readable (depth + 1) d.toJson := by
  refine ⟨by simp, ?_⟩
  simp [Json.ReadableMembers, Json.readable_int h, Json.readable_ofOption_string, Json.Readable]

end Dataset

namespace FlowJob

def Fits (f : FlowJob) : Prop := FitsInt64 f.flowId

lemma ofJson?_toJson {f : FlowJob} (h : f.Fits) : ofJson? f.toJson = some f := by
  simp [ofJson?, toJson, Record.ofJson?, Record.required?_cons_self, Record.required?_cons_of_ne,
    Record.nullable?_cons_text, Record.nullable?_cons_of_ne, Json.int64?_int h, Json.text?]

lemma fits_of_ofJson? {v : Json} {f : FlowJob} (h : ofJson? v = some f) : f.Fits := by
  obtain ⟨r, -, h⟩ := Option.bind_eq_some_iff.mp h
  obtain ⟨appCode, -, h⟩ := Option.bind_eq_some_iff.mp h
  obtain ⟨flowId, hid, h⟩ := Option.bind_eq_some_iff.mp h
  simp only [Option.bind_eq_bind, Option.bind_eq_some_iff] at h
  obtain ⟨_, -, _, -, _, -, _, -, _, -, _, -, _, -, _, -, _, -, heq⟩ := h
  cases heq
  obtain ⟨v, hv⟩ := Record.exists_of_required? _ _ hid
  exact Json.of_intIn? hv

lemma readable_toJson {f : FlowJob} (h : f.Fits) (depth : Nat) :
    Json.Readable (depth + 1) f.toJson := by
  refine ⟨by simp, ?_⟩
  simp [Json.ReadableMembers, Json.readable_int h, Json.readable_ofOption_string, Json.Readable]

end FlowJob

namespace ResultPage

variable {α : Type} {write : α → Json} {read? : Json → Option α} {InRange : α → Prop}

/-- The numbers of the page have 64 bits, and its items are in range. -/
structure Fits (InRange : α → Prop) (p : ResultPage α) : Prop where
  count : FitsInt64 p.count
  page : FitsInt64 p.page
  itemsPerPage : FitsInt64 p.itemsPerPage
  totalPages : FitsInt64 p.totalPages
  data : ∀ a ∈ p.data, InRange a

lemma ofJson?_toJson {p : ResultPage α} (h : p.Fits InRange)
    (hitems : ∀ a, InRange a → read? (write a) = some a) :
    ofJson? read? (p.toJson write) = some p := by
  have hdata : Json.list? read? (.array (p.data.map write)) = some p.data :=
    Json.list?_array_map fun a ha => hitems a (h.data a ha)
  obtain ⟨count, page, itemsPerPage, totalPages, isFlowJob, data⟩ := p
  cases isFlowJob <;>
    simp [ofJson?, toJson, Record.ofJson?, Record.required?_cons_self, Record.required?_cons_of_ne,
      Record.nullable?_cons_of_ne, Record.nullable?_nil, Record.nullable?_cons_flag,
      Json.int64?_int h.count, Json.int64?_int h.page, Json.int64?_int h.itemsPerPage,
      Json.int64?_int h.totalPages, hdata]

lemma fits_of_ofJson? {v : Json} {p : ResultPage α} (h : ofJson? read? v = some p)
    (hitems : ∀ v a, read? v = some a → InRange a) : p.Fits InRange := by
  have hint {r : Record} {name : String} {n : Int} (h : r.required? name Json.int64? = some n) :
      FitsInt64 n := by
    obtain ⟨v, hv⟩ := r.exists_of_required? _ h
    exact Json.of_intIn? hv
  obtain ⟨r, -, h⟩ := Option.bind_eq_some_iff.mp h
  simp only [Option.bind_eq_bind, Option.bind_eq_some_iff] at h
  obtain ⟨_, hcount, _, hpage, _, hsize, _, hpages, _, -, _, hdata, heq⟩ := h
  cases heq
  refine ⟨hint hcount, hint hpage, hint hsize, hint hpages, fun a ha => ?_⟩
  obtain ⟨v, hv⟩ := r.exists_of_required? _ hdata
  obtain ⟨item, hitem⟩ := Json.of_mem_list? hv a ha
  exact hitems item a hitem

lemma readable_toJson {p : ResultPage α} (h : p.Fits InRange) (depth : Nat)
    (hitems : ∀ a, InRange a → Json.Readable depth (write a)) :
    Json.Readable (depth + 2) (p.toJson write) := by
  have hdata : Json.ReadableItems depth (p.data.map write) :=
    Json.readableItems_map fun a ha => hitems a (h.data a ha)
  obtain ⟨count, page, itemsPerPage, totalPages, isFlowJob, data⟩ := p
  cases isFlowJob <;> refine ⟨by simp, ?_⟩ <;>
    simp [Json.ReadableMembers, Json.readable_int h.count, Json.readable_int h.page,
      Json.readable_int h.itemsPerPage, Json.readable_int h.totalPages, Json.Readable, hdata]

end ResultPage

/-! ## Round trips -/

lemma Dataset.roundTrips : RoundTrips toJson ofJson? Fits :=
  .of_inRange (fun _ h => readable_toJson h 126) (fun _ => ofJson?_toJson)
    fun _ _ => fits_of_ofJson?

lemma FlowJob.roundTrips : RoundTrips toJson ofJson? Fits :=
  .of_inRange (fun _ h => readable_toJson h 126) (fun _ => ofJson?_toJson)
    fun _ _ => fits_of_ofJson?

/-- Pages round-trip if their items do. -/
lemma ResultPage.roundTrips {α : Type} {write : α → Json} {read? : Json → Option α}
    {InRange : α → Prop} (h : RoundTrips write read? InRange)
    (hreadable : ∀ a, InRange a → ∀ depth, Json.Readable (depth + 1) (write a)) :
    RoundTrips (toJson write) (ofJson? read?) (Fits InRange) :=
  .of_inRange
    (fun _ hp => readable_toJson hp 125 fun a ha => hreadable a ha 124)
    (fun _ hp => ofJson?_toJson hp h.read?_write)
    fun _ _ hp => fits_of_ofJson? hp fun v a ha => (h.reread v a ha).1

end FacetSearch
