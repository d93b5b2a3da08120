import FacetSearch.Proofs.Http.Fields
import FacetSearch.Proofs.Text.Ends

/-!
# Identifiers of clients

What a client gives for an identifier is visible ASCII, with blanks at most at its ends. It comes
back without these, and can be given again as it comes back.
-/

namespace FacetSearch

namespace RequestId

/-! ## Blanks at the ends -/

/-- The value is the identifier with blanks around it. -/
structure Pads (v id : Bytes) : Prop where
  around : ∃ before after, v = before ++ (id ++ after) ∧
    (∀ b ∈ before, isBlankByte b = true) ∧ ∀ b ∈ after, isBlankByte b = true
  first : ∀ b ∈ id.head?, isBlankByte b = false
  last : ∀ b ∈ id.getLast?, isBlankByte b = false

lemma trim_eq_rdropWhile (v : Bytes) :
    trim v = (v.dropWhile isBlankByte).rdropWhile isBlankByte := rfl

lemma dropWhile_of_head? {id after : Bytes} (hfirst : ∀ b ∈ id.head?, isBlankByte b = false)
    (hafter : ∀ b ∈ after, isBlankByte b = true) :
    ((id ++ after).dropWhile isBlankByte).rdropWhile isBlankByte =
      (id ++ after).rdropWhile isBlankByte := by
  cases id with
  | nil =>
    have hfront : after.dropWhile isBlankByte = [] := List.dropWhile_eq_nil_iff.mpr hafter
    have hback : after.rdropWhile isBlankByte = [] := List.rdropWhile_eq_nil_iff.mpr hafter
    rw [List.nil_append, hfront, hback, List.rdropWhile_nil]
  | cons b id =>
    have hb : ¬ isBlankByte b = true := by simpa using hfirst b rfl
    rw [List.cons_append, List.dropWhile_cons_of_neg hb]

lemma rdropWhile_append {id after : Bytes} (hlast : ∀ b ∈ id.getLast?, isBlankByte b = false)
    (hafter : ∀ b ∈ after, isBlankByte b = true) :
    (id ++ after).rdropWhile isBlankByte = id := by
  have hreverse : ∀ b ∈ after.reverse, isBlankByte b = true := fun b hb =>
    hafter b (List.mem_reverse.mp hb)
  rw [List.rdropWhile, List.reverse_append, List.dropWhile_append_of_pos hreverse]
  exact (rdropWhile_eq_self_iff id).mpr hlast

/-- No other identifier has been padded so. -/
lemma Pads.trim_eq {v id : Bytes} (h : Pads v id) : trim v = id := by
  obtain ⟨before, after, rfl, hbefore, hafter⟩ := h.around
  rw [trim_eq_rdropWhile, List.dropWhile_append_of_pos hbefore, dropWhile_of_head? h.first hafter]
  exact rdropWhile_append h.last hafter

lemma pads_trim (v : Bytes) : Pads v (trim v) := by
  rw [trim_eq_rdropWhile]
  constructor
  · refine ⟨v.takeWhile isBlankByte, (v.dropWhile isBlankByte).rtakeWhile isBlankByte, ?_,
      fun b => List.mem_takeWhile_imp, fun b => List.mem_rtakeWhile_imp⟩
    rw [List.rdropWhile_append_rtakeWhile, List.takeWhile_append_dropWhile]
  · exact of_mem_head?_rdropWhile_dropWhile v
  · exact of_mem_getLast?_rdropWhile (v.dropWhile isBlankByte)

/-! ## Identifiers -/

lemma isBlankByte_iff (b : UInt8) : isBlankByte b = true ↔ b.toNat = 0x20 ∨ b.toNat = 0x09 := by
  simp only [isBlankByte, Bool.or_eq_true, decide_eq_true_eq]

lemma isGraphic_iff (b : UInt8) : isGraphic b = true ↔ 0x21 ≤ b.toNat ∧ b.toNat ≤ 0x7E := by
  simp only [isGraphic, Bool.and_eq_true, decide_eq_true_eq]

/-- The value of a header is visible ASCII, spaces and tabs, and without those at its ends an
identifier of one to 128 visible bytes. -/
structure Reads (v id : Bytes) : Prop where
  visible : ∀ b ∈ v, b.toNat = 0x09 ∨ 0x20 ≤ b.toNat ∧ b.toNat ≤ 0x7E
  pads : Pads v id
  length : 1 ≤ id.length ∧ id.length ≤ 128
  graphic : ∀ b ∈ id, 0x21 ≤ b.toNat ∧ b.toNat ≤ 0x7E

lemma Pads.visible {v id : Bytes} (h : Pads v id)
    (hgraphic : ∀ b ∈ id, 0x21 ≤ b.toNat ∧ b.toNat ≤ 0x7E) :
    ∀ b ∈ v, b.toNat = 0x09 ∨ 0x20 ≤ b.toNat ∧ b.toNat ≤ 0x7E := by
  have hblank {b : UInt8} (hb : isBlankByte b = true) :
      b.toNat = 0x09 ∨ 0x20 ≤ b.toNat ∧ b.toNat ≤ 0x7E := by
    have := (isBlankByte_iff b).mp hb
    omega
  obtain ⟨before, after, rfl, hbefore, hafter⟩ := h.around
  intro b hb
  rcases List.mem_append.mp hb with hfront | hrest
  · exact hblank (hbefore b hfront)
  · rcases List.mem_append.mp hrest with hid | hback
    · have := hgraphic b hid
      omega
    · exact hblank (hafter b hback)

lemma ofClient?_eq_some_iff {headers : Headers} {id : Bytes} :
    ofClient? headers = some id ↔ ∃ v, headers.first? header = some v ∧ Reads v id := by
  have haccepted (id : Bytes) : (id ≠ [] ∧ id.length ≤ maxLength ∧ id.all isGraphic = true) ↔
      (1 ≤ id.length ∧ id.length ≤ 128) ∧ ∀ b ∈ id, 0x21 ≤ b.toNat ∧ b.toNat ≤ 0x7E := by
    rw [List.all_eq_true, ← List.length_pos_iff, and_assoc]
    simp only [isGraphic_iff]
    rfl
  unfold ofClient?
  rw [Option.bind_eq_some_iff]
  refine exists_congr fun v => and_congr_right' ?_
  simp only [haccepted]
  constructor
  · intro h
    split at h
    · next hid =>
      obtain rfl := Option.some.inj h
      exact ⟨(pads_trim v).visible hid.2, pads_trim v, hid.1, hid.2⟩
    · cases h
  · intro h
    rw [h.pads.trim_eq, if_pos ⟨h.length, h.graphic⟩]

namespace Reads

variable {v id : Bytes}

lemma self (h : Reads v id) : Reads id id where
  visible b hb := .inr ⟨by have := h.graphic b hb; omega, (h.graphic b hb).2⟩
  pads := ⟨⟨[], [], by simp, by simp, by simp⟩, h.pads.first, h.pads.last⟩
  length := h.length
  graphic := h.graphic

lemma isLegalValue (h : Reads v id) : Headers.isLegalValue id = true := by
  refine List.all_eq_true.mpr fun b hb => ?_
  have hb := h.graphic b hb
  have hlegal : 32 ≤ b.toNat ∧ b.toNat ≠ 127 := by omega
  simp [hlegal]

end Reads

end RequestId

namespace Application

open RequestId

/-- What a response echoes for an identifier. -/
def echoed (app : Application) (m : Moment) (r : Request) (st : ServiceState) : List Bytes :=
  ((app.respond m r).run st).1.headers.values correlationHeader

variable {app : Application} {m : Moment} {r : Request} {st : ServiceState}

lemma echoed_eq (h : r.method ≠ "OPTIONS") :
    app.echoed m r st = (ofClient? r.headers).toList := by
  have hnone : ((app.route m r).run (entered r st)).1.headers.values correlationHeader = [] :=
    (app.always_route m r (entered r st)).values_eq_nil (by decide)
  unfold echoed
  rw [run_respond _ _ _ h]
  rcases hroute : (app.route m r).run (entered r st) with ⟨response, after⟩
  rw [hroute] at hnone
  simp only [dressed_headers]
  rw [Cors.values_allowOrigin_of_ne _ _ _ (by decide)]
  exact values_tag_correlation _ _ hnone

lemma echoed_eq_singleton_iff (h : r.method ≠ "OPTIONS") {id : Bytes} :
    app.echoed m r st = [id] ↔ ∃ v, r.headers.first? header = some v ∧ Reads v id := by
  rw [echoed_eq h, Option.toList_eq_singleton_iff, ofClient?_eq_some_iff]

/-- Whatever the service, its state and its response are, the response to any request but one for
OPTIONS echoes what the first identifier given by the client reads as, if it reads as one. Requests
with the same first identifier get the same echo, whatever else they give. What is echoed can be
given in the next request and is echoed again. -/
theorem first_identifier_echoed (app : Application) (m : Moment) (r : Request) (st : ServiceState)
    (h : r.method ≠ "OPTIONS") :
    (∀ id, app.echoed m r st = [id] ↔ ∃ v, r.headers.first? header = some v ∧ Reads v id) ∧
    (app.echoed m r st = [] ↔ ∀ v id, r.headers.first? header = some v → ¬ Reads v id) ∧
    (∀ (app' : Application) (m' : Moment) (r' : Request) (st' : ServiceState),
      r'.method ≠ "OPTIONS" → r'.headers.first? header = r.headers.first? header →
        app'.echoed m' r' st' = app.echoed m r st) ∧
    ∀ id ∈ app.echoed m r st, Headers.isLegalValue id = true ∧
      ∀ (app' : Application) (m' : Moment) (r' : Request) (st' : ServiceState),
        r'.method ≠ "OPTIONS" → r'.headers.first? header = some id →
          app'.echoed m' r' st' = [id] := by
  refine ⟨fun id => echoed_eq_singleton_iff h, ?_, ?_, ?_⟩
  · rw [echoed_eq h, Option.toList_eq_nil_iff, Option.eq_none_iff_forall_ne_some]
    constructor
    · intro hnone v id hfirst hreads
      exact hnone id (ofClient?_eq_some_iff.mpr ⟨v, hfirst, hreads⟩)
    · intro hnone id hsome
      obtain ⟨v, hfirst, hreads⟩ := ofClient?_eq_some_iff.mp hsome
      exact hnone v id hfirst hreads
  · intro app' m' r' st' h' hfirst
    rw [echoed_eq h', echoed_eq h, ofClient?, ofClient?, hfirst]
  · intro id hid
    rw [echoed_eq h, Option.mem_toList, ofClient?_eq_some_iff] at hid
    obtain ⟨v, -, hreads⟩ := hid
    refine ⟨hreads.isLegalValue, fun app' m' r' st' h' hfirst => ?_⟩
    exact (echoed_eq_singleton_iff h').mpr ⟨id, hfirst, hreads.self⟩

/-- A request to a path that does not exist gives two identifiers, the first of them padded to more
than 128 bytes. -/
theorem first_identifier_echoed_padded :
    let app : Application := ⟨.ofSettings {} 30, ⟨fun _ => some .timedOut, fun _ _ => .rows []⟩,
      ⟨[]⟩, 1048576, "catalog-search", fun _ => true⟩
    let m : Moment := ⟨"a48e1f2c", 0, 0⟩
    let r : Request := ⟨"GET", ⟨"/nowhere", none⟩,
      [("x-request-id", List.replicate 130 0x20 ++ Bytes.ofText "trace-42\t"),
        ("x-request-id", .ofText "trace-43")], []⟩
    let again : Request := ⟨"HEAD", ⟨"/metrics", none⟩, [("x-request-id", .ofText "trace-42")], []⟩
    r.method ≠ "OPTIONS" ∧ app.echoed m r {} = [.ofText "trace-42"] ∧
      app.echoed m again {} = [.ofText "trace-42"] := by
  intro app m r again
  have hmethod : r.method ≠ "OPTIONS" := by decide
  obtain ⟨hechoed, -, -, hagain⟩ := first_identifier_echoed app m r {} hmethod
  have hreads : ∃ v, r.headers.first? header = some v ∧ Reads v (.ofText "trace-42") :=
    ofClient?_eq_some_iff.mp (by decide)
  have hfirst := (hechoed _).mpr hreads
  have hid : .ofText "trace-42" ∈ app.echoed m r {} := hfirst ▸ List.mem_singleton_self _
  exact ⟨hmethod, hfirst, (hagain _ hid).2 app m again {} (by decide) rfl⟩

end Application

end FacetSearch
