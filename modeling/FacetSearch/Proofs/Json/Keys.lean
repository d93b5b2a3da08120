import FacetSearch.Json.Reader
import Mathlib.Data.List.Nodup
import Mathlib.Tactic.Lemma

/-!
# Keys of what is read

A text may give a key of an object twice, in which case the last value counts. The objects that are
read have distinct keys.
-/

namespace FacetSearch

namespace Json

mutual

/-- Every object within a value has distinct keys. -/
def HasDistinctKeys : Json → Prop
  | array items => ItemsHaveDistinctKeys items
  | object members => (members.map Prod.fst).Nodup ∧ MembersHaveDistinctKeys members
  | _ => True

def ItemsHaveDistinctKeys : List Json → Prop
  | [] => True
  | v :: vs => HasDistinctKeys v ∧ ItemsHaveDistinctKeys vs

def MembersHaveDistinctKeys : List (String × Json) → Prop
  | [] => True
  | (_, v) :: ms => HasDistinctKeys v ∧ MembersHaveDistinctKeys ms

end

lemma itemsHaveDistinctKeys_iff {items : List Json} :
    ItemsHaveDistinctKeys items ↔ ∀ v ∈ items, HasDistinctKeys v := by
  induction items with
  | nil => simp [ItemsHaveDistinctKeys]
  | cons v vs ih => rw [ItemsHaveDistinctKeys, ih, List.forall_mem_cons]

lemma membersHaveDistinctKeys_iff {members : List (String × Json)} :
    MembersHaveDistinctKeys members ↔ ∀ m ∈ members, HasDistinctKeys m.2 := by
  induction members with
  | nil => simp [MembersHaveDistinctKeys]
  | cons m ms ih => rw [MembersHaveDistinctKeys, ih, List.forall_mem_cons]

lemma hasDistinctKeys_array_iff {items : List Json} :
    HasDistinctKeys (array items) ↔ ∀ v ∈ items, HasDistinctKeys v := by
  rw [HasDistinctKeys, itemsHaveDistinctKeys_iff]

lemma hasDistinctKeys_object_iff {members : List (String × Json)} :
    HasDistinctKeys (object members) ↔
      (members.map Prod.fst).Nodup ∧ ∀ m ∈ members, HasDistinctKeys m.2 := by
  rw [HasDistinctKeys, membersHaveDistinctKeys_iff]

lemma lookup_eq_some_iff {members : List (String × Json)} (hnodup : (members.map Prod.fst).Nodup)
    {key : String} {value : Json} : members.lookup key = some value ↔ (key, value) ∈ members := by
  induction members with
  | nil => simp
  | cons member members ih =>
    obtain ⟨first, old⟩ := member
    obtain ⟨hnew, hnodup⟩ := List.nodup_cons.mp hnodup
    rw [List.lookup_cons, List.mem_cons, Prod.mk.injEq]
    by_cases heq : key = first
    · obtain rfl := heq
      have hothers : (key, value) ∉ members := fun hmem =>
        hnew (List.mem_map.mpr ⟨_, hmem, rfl⟩)
      simp [hothers, eq_comm]
    · rw [beq_false_of_ne heq]
      simp only [heq, false_and, false_or]
      exact ih hnodup

/-- Of distinct keys each has its value in any order. -/
lemma lookup_eq_of_perm {members members' : List (String × Json)} (hperm : members.Perm members')
    (hnodup : (members.map Prod.fst).Nodup) (key : String) :
    members.lookup key = members'.lookup key := by
  refine Option.ext fun value => ?_
  have hnodup' : (members'.map Prod.fst).Nodup := (hperm.map Prod.fst).nodup_iff.mp hnodup
  rw [lookup_eq_some_iff hnodup, lookup_eq_some_iff hnodup', hperm.mem_iff]

lemma HasDistinctKeys.of_lookup {members : List (String × Json)} {key : String} {value : Json}
    (h : (object members).HasDistinctKeys) (hvalue : members.lookup key = some value) :
    value.HasDistinctKeys := by
  obtain ⟨before, after, rfl, -⟩ := List.lookup_eq_some_iff.mp hvalue
  exact (hasDistinctKeys_object_iff.mp h).2 (key, value) (by simp)

/-! ## Setting members -/

lemma eq_or_mem_of_mem_setMember {m : String × Json} {key : String} {value : Json}
    {members : List (String × Json)} (h : m ∈ setMember key value members) :
    m = (key, value) ∨ m ∈ members := by
  induction members with
  | nil => exact .inl (List.mem_singleton.mp h)
  | cons first ms ih =>
    rw [setMember] at h
    split at h
    next => exact (List.mem_cons.mp h).imp_right (List.mem_cons_of_mem _)
    next =>
      rcases List.mem_cons.mp h with rfl | h
      · exact .inr List.mem_cons_self
      · exact (ih h).imp_right (List.mem_cons_of_mem _)

lemma mem_keys_setMember {k key : String} {value : Json} {members : List (String × Json)}
    (h : k ∈ (setMember key value members).map Prod.fst) : k = key ∨ k ∈ members.map Prod.fst := by
  obtain ⟨m, hm, rfl⟩ := List.mem_map.mp h
  exact (eq_or_mem_of_mem_setMember hm).imp (congrArg Prod.fst) List.mem_map_of_mem

lemma nodup_setMember {key : String} {value : Json} {members : List (String × Json)}
    (h : (members.map Prod.fst).Nodup) : ((setMember key value members).map Prod.fst).Nodup := by
  induction members with
  | nil => exact List.nodup_singleton key
  | cons m ms ih =>
    obtain ⟨hnew, hrest⟩ := List.nodup_cons.mp h
    rw [setMember]
    split
    next hkey =>
      obtain rfl : m.1 = key := hkey
      exact h
    next hkey =>
      refine List.nodup_cons.mpr ⟨fun hmem => ?_, ih hrest⟩
      exact (mem_keys_setMember hmem).elim hkey hnew

lemma HasDistinctKeys.setMember {key : String} {value : Json} {members : List (String × Json)}
    (hvalue : value.HasDistinctKeys) (h : (object members).HasDistinctKeys) :
    (object (Json.setMember key value members)).HasDistinctKeys := by
  rw [hasDistinctKeys_object_iff] at h ⊢
  refine ⟨nodup_setMember h.1, fun m hm => ?_⟩
  rcases eq_or_mem_of_mem_setMember hm with rfl | hm
  · exact hvalue
  · exact h.2 m hm

/-! ## Reading -/

/-- What a step keeps is kept over a list. -/
lemma foldlM_invariant {σ α : Type} {step : σ → α → Option σ} {P : σ → Prop} {as : List α}
    (hstep : ∀ s, P s → ∀ a ∈ as, ∀ s', step s a = some s' → P s') {s s' : σ} (hs : P s)
    (h : as.foldlM step s = some s') : P s' := by
  induction as generalizing s with
  | nil =>
    obtain rfl : s = s' := Option.some.inj h
    exact hs
  | cons a as ih =>
    rw [List.foldlM_cons] at h
    obtain ⟨next, hnext, hrest⟩ := Option.bind_eq_some_iff.mp h
    exact ih (fun s hs b hb => hstep s hs b (List.mem_cons_of_mem a hb))
      (hstep s hs a List.mem_cons_self next hnext) hrest

/-- A token is no container that is complete. -/
def Token.IsPlain : Token → Prop
  | .scalar v => v.HasDistinctKeys
  | _ => True

lemma isPlain_of_wordToken? {cs : List Char} {t : Token} (h : wordToken? cs = some t) :
    t.IsPlain := by
  rw [wordToken?] at h
  repeat' split at h
  all_goals cases h
  all_goals trivial

lemma isPlain_of_numberToken? {cs : List Char} {t : Token} (h : numberToken? cs = some t) :
    t.IsPlain := by
  obtain ⟨n, -, rfl⟩ := Option.map_eq_some_iff.mp h
  trivial

lemma isPlain_of_beginToken {c : Char} {next : Lexer} {ts : List Token}
    (h : beginToken c = some (next, ts)) : ∀ t ∈ ts, t.IsPlain := by
  rw [beginToken] at h
  repeat' split at h
  all_goals cases h
  all_goals simp [Token.IsPlain]

lemma Lexer.isPlain_of_step {state next : Lexer} {c : Char} {ts : List Token}
    (h : state.step c = some (next, ts)) : ∀ t ∈ ts, t.IsPlain := by
  -- A token that ends before the character comes first, and one that the character is may follow.
  have hthen {token? : Option Token} (htoken : ∀ t ∈ token?, t.IsPlain)
      (h : (token?.bind fun token => (beginToken c).bind fun begun =>
        some (begun.1, token :: begun.2)) = some (next, ts)) : ∀ t ∈ ts, t.IsPlain := by
    obtain ⟨token, heq, h⟩ := Option.bind_eq_some_iff.mp h
    obtain ⟨⟨_, rest⟩, hbegin, h⟩ := Option.bind_eq_some_iff.mp h
    cases h
    exact List.forall_mem_cons.mpr ⟨htoken token heq, isPlain_of_beginToken hbegin⟩
  cases state with
  | between => exact isPlain_of_beginToken h
  | word read =>
    rw [step] at h
    split at h
    next =>
      cases h
      simp
    next => exact hthen (fun t => isPlain_of_wordToken?) h
  | number read =>
    rw [step] at h
    split at h
    next =>
      cases h
      simp
    next => exact hthen (fun t => isPlain_of_numberToken?) h
  | string read =>
    rw [step] at h
    repeat' split at h
    all_goals cases h
    all_goals simp [Token.IsPlain, HasDistinctKeys]
  | escape read =>
    rw [step] at h
    split at h
    · cases h
      simp
    · obtain ⟨d, -, heq⟩ := Option.map_eq_some_iff.mp h
      cases heq
      simp
  | unit read high count value =>
    rw [step] at h
    obtain ⟨digit, -, h⟩ := Option.bind_eq_some_iff.mp h
    split at h
    · cases h
      simp
    · obtain ⟨unit, -, h⟩ := Option.bind_eq_some_iff.mp h
      cases h
      simp
  | lowEscape read high =>
    rw [step] at h
    split at h
    all_goals cases h
    simp
  | lowUnit read high =>
    rw [step] at h
    split at h
    all_goals cases h
    simp

lemma isPlain_of_tokens? {cs : List Char} {ts : List Token} (h : tokens? cs = some ts) :
    ∀ t ∈ ts, t.IsPlain := by
  obtain ⟨⟨last, read⟩, hread, h⟩ := Option.bind_eq_some_iff.mp h
  obtain ⟨rest, hrest, h⟩ := Option.bind_eq_some_iff.mp h
  cases h
  have hbegun : ∀ t ∈ read, t.IsPlain := by
    refine foldlM_invariant (P := fun state => ∀ t ∈ state.2, t.IsPlain) ?_ (fun t ht => ?_) hread
    · intro state hstate c _ state' hstep
      obtain ⟨⟨next, ts⟩, hnext, heq⟩ := Option.bind_eq_some_iff.mp hstep
      cases heq
      simp only [List.mem_append, List.mem_reverse]
      exact fun t ht => ht.elim (Lexer.isPlain_of_step hnext t) (hstate t)
    · cases ht
  have hended : ∀ t ∈ rest, t.IsPlain := by
    cases last with
    | between =>
      cases hrest
      exact fun t ht => by cases ht
    | word read =>
      obtain ⟨token, htoken, heq⟩ := Option.map_eq_some_iff.mp hrest
      cases heq
      simpa using isPlain_of_wordToken? htoken
    | number read =>
      obtain ⟨token, htoken, heq⟩ := Option.map_eq_some_iff.mp hrest
      cases heq
      simpa using isPlain_of_numberToken? htoken
    | _ => cases hrest
  simp only [List.mem_reverse, List.mem_append]
  exact fun t ht => ht.elim (hended t) (hbegun t)

/-- What a container has so far. -/
def Frame.soFar : Frame → Json
  | .array items => .array items
  | .object members _ => .object members

/-- All that the parser has so far has distinct keys. -/
structure Parser.HasDistinctKeys (p : Parser) : Prop where
  frames : ∀ frame ∈ p.frames, frame.soFar.HasDistinctKeys
  result : ∀ v, p.expected = .nothing v → v.HasDistinctKeys

namespace Parser

variable {frames : List Frame} {p : Parser} {t : Token}

lemma hasDistinctKeys_push (hframes : ∀ frame ∈ frames, frame.soFar.HasDistinctKeys) {v : Json}
    (hv : v.HasDistinctKeys) : (push frames v).HasDistinctKeys := by
  cases frames with
  | nil => exact ⟨hframes, fun w hw => by cases hw; exact hv⟩
  | cons frame rest =>
    obtain ⟨hframe, hrest⟩ := List.forall_mem_cons.mp hframes
    cases frame with
    | array items =>
      have hitems : (array (v :: items)).HasDistinctKeys := by
        rw [Frame.soFar, hasDistinctKeys_array_iff] at hframe
        exact hasDistinctKeys_array_iff.mpr (List.forall_mem_cons.mpr ⟨hv, hframe⟩)
      exact ⟨List.forall_mem_cons.mpr ⟨hitems, hrest⟩, fun w hw => by cases hw⟩
    | object members key =>
      exact ⟨List.forall_mem_cons.mpr ⟨hv.setMember hframe, hrest⟩, fun w hw => by cases hw⟩

lemma hasDistinctKeys_beginValue (hframes : ∀ frame ∈ frames, frame.soFar.HasDistinctKeys)
    (ht : t.IsPlain) (h : beginValue frames t = some p) : p.HasDistinctKeys := by
  have hbegin {frame : Frame} {expected : Expected} (hframe : frame.soFar.HasDistinctKeys)
      (hexpected : ∀ v, expected ≠ .nothing v)
      (h : (if frames.length < maxDepth then some (Parser.mk (frame :: frames) expected)
        else none) = some p) : p.HasDistinctKeys := by
    split at h
    all_goals cases h
    exact ⟨List.forall_mem_cons.mpr ⟨hframe, hframes⟩, fun v hv => absurd hv (hexpected v)⟩
  cases t with
  | scalar v =>
    cases h
    exact hasDistinctKeys_push hframes ht
  | beginArray =>
    have hempty : (Frame.array []).soFar.HasDistinctKeys := trivial
    exact hbegin hempty (fun _ => Expected.noConfusion) h
  | beginObject =>
    have hempty : (Frame.object [] "").soFar.HasDistinctKeys := ⟨List.nodup_nil, trivial⟩
    exact hbegin hempty (fun _ => Expected.noConfusion) h
  | _ => cases h

lemma hasDistinctKeys_close (hframes : ∀ frame ∈ frames, frame.soFar.HasDistinctKeys)
    (h : close frames t = some p) : p.HasDistinctKeys := by
  cases frames with
  | nil => cases h
  | cons frame rest =>
    obtain ⟨hframe, hrest⟩ := List.forall_mem_cons.mp hframes
    cases frame with
    | array items =>
      cases t
      all_goals cases h
      refine hasDistinctKeys_push hrest (hasDistinctKeys_array_iff.mpr fun v hv => ?_)
      exact hasDistinctKeys_array_iff.mp hframe v (List.mem_reverse.mp hv)
    | object members key =>
      cases t
      all_goals cases h
      exact hasDistinctKeys_push hrest hframe

lemma hasDistinctKeys_beginMember (hframes : ∀ frame ∈ frames, frame.soFar.HasDistinctKeys)
    (h : beginMember frames t = some p) : p.HasDistinctKeys := by
  unfold beginMember at h
  split at h
  next =>
    cases h
    obtain ⟨hframe, hrest⟩ := List.forall_mem_cons.mp hframes
    exact ⟨List.forall_mem_cons.mpr ⟨hframe, hrest⟩, fun v hv => by cases hv⟩
  next => cases h

/-- One token more. -/
lemma HasDistinctKeys.step (hp : p.HasDistinctKeys) (ht : t.IsPlain) {next : Parser}
    (h : p.step t = some next) : next.HasDistinctKeys := by
  obtain ⟨frames, expected⟩ := p
  obtain ⟨hframes, -⟩ := hp
  cases expected with
  | value => exact hasDistinctKeys_beginValue hframes ht h
  | valueOrEnd =>
    cases t
    case endArray => exact hasDistinctKeys_close hframes h
    all_goals exact hasDistinctKeys_beginValue hframes ht h
  | key => exact hasDistinctKeys_beginMember hframes h
  | keyOrEnd =>
    cases t
    case endObject => exact hasDistinctKeys_close hframes h
    all_goals exact hasDistinctKeys_beginMember hframes h
  | colon =>
    cases t
    all_goals cases h
    exact ⟨hframes, fun v hv => by cases hv⟩
  | separator =>
    simp only [Parser.step] at h
    split at h
    · cases h
      exact ⟨hframes, fun v hv => by cases hv⟩
    · cases h
      exact ⟨hframes, fun v hv => by cases hv⟩
    · exact hasDistinctKeys_close hframes h
  | nothing result => cases h

end Parser

/-- Whatever a text repeats, the objects that are read have distinct keys. -/
theorem hasDistinctKeys_of_parse? {s : String} {v : Json} (h : parse? s = some v) :
    v.HasDistinctKeys := by
  obtain ⟨ts, hts, h⟩ := Option.bind_eq_some_iff.mp h
  obtain ⟨p, hp, h⟩ := Option.bind_eq_some_iff.mp h
  have hbegin : Parser.HasDistinctKeys ⟨[], .value⟩ :=
    ⟨List.forall_mem_nil _, fun w hw => by cases hw⟩
  have hend : p.HasDistinctKeys :=
    foldlM_invariant (fun _ hq t ht _ => hq.step (isPlain_of_tokens? hts t ht)) hbegin hp
  split at h
  next w hw =>
    cases h
    exact hend.result v hw
  next => cases h

end Json

end FacetSearch
