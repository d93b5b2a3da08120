import FacetSearch.Metrics.Registry
import Mathlib.Data.List.Nodup

/-!
# Counting samples

A family tells its samples apart by the hashes of their labels. So a sample counts what was observed
under any labels with its hash, and the samples together count all that was observed. Where no two
labels collide, there is a sample for each of them, which counts what was observed under them alone.
-/

namespace FacetSearch

namespace LabelHash

variable {κ : Type} [Labelled κ]

/-- Keys of the list with the same hash read the same. -/
def NoCollision (hash : LabelHash) (keys : List κ) : Prop :=
  ∀ k ∈ keys, ∀ k' ∈ keys, hash.ofLabels k = hash.ofLabels k' → Labelled.text k = Labelled.text k'

instance (hash : LabelHash) (keys : List κ) : Decidable (hash.NoCollision keys) :=
  inferInstanceAs (Decidable (∀ k ∈ keys, ∀ k' ∈ keys,
    hash.ofLabels k = hash.ofLabels k' → Labelled.text k = Labelled.text k'))

lemma noCollision_singleton (hash : LabelHash) (key : κ) : hash.NoCollision [key] := by
  intro k hk k' hk' _
  rw [List.mem_singleton.mp hk, List.mem_singleton.mp hk']

/-- Different keys of the list have different hashes. -/
def TellsApart (hash : LabelHash) (keys : List κ) : Prop :=
  ∀ k ∈ keys, ∀ k' ∈ keys, hash.ofLabels k = hash.ofLabels k' → k = k'

lemma tellsApart_of_nodup {hash : LabelHash} {keys : List κ}
    (h : (keys.map (hash.ofText ∘ Labelled.text)).Nodup) : hash.TellsApart keys :=
  fun _ hk _ hk' hsame => List.inj_on_of_nodup_map h hk hk' hsame

lemma TellsApart.of_subset {hash : LabelHash} {keys keys' : List κ} (h : hash.TellsApart keys')
    (hsubset : ∀ k ∈ keys, k ∈ keys') : hash.TellsApart keys :=
  fun k hk k' hk' => h k (hsubset k hk) k' (hsubset k' hk')

end LabelHash

namespace Samples

variable {κ ν : Type}

/-- The count under a key, zero if there is no sample. -/
def valueOf [DecidableEq κ] (weight : ν → Nat) (key : κ) : Samples κ ν → Nat
  | [] => 0
  | (k, v) :: rest => if k = key then weight v else valueOf weight key rest

/-- The sum of the counts under the keys that fulfil `p`. -/
def sumOver (weight : ν → Nat) (p : κ → Bool) : Samples κ ν → Nat
  | [] => 0
  | (k, v) :: rest => (if p k then weight v else 0) + sumOver weight p rest

lemma sumOver_eq_zero {weight : ν → Nat} {p : κ → Bool} {s : Samples κ ν}
    (h : ∀ sample ∈ s, p sample.1 = false) : s.sumOver weight p = 0 := by
  induction s with
  | nil => rfl
  | cons first rest ih =>
    obtain ⟨hfirst, hrest⟩ := List.forall_mem_cons.mp h
    rw [sumOver, ih hrest, hfirst]
    rfl

/-- All samples have keys of the list. -/
def Within (keys : List κ) (s : Samples κ ν) : Prop := ∀ sample ∈ s, sample.1 ∈ keys

section Adjust

variable [Labelled κ] {hash : LabelHash} {keys : List κ} {key : κ} {initial : ν} {f : ν → ν}
  {weight : ν → Nat} {s : Samples κ ν}

lemma adjust_adjust (s : Samples κ ν) (key : κ) (initial initial' : ν) (f g : ν → ν) :
    (s.adjust hash key initial f).adjust hash key initial' g =
      s.adjust hash key initial fun v => g (f v) := by
  induction s with
  | nil => rw [Samples.adjust, Samples.adjust, Samples.adjust, if_pos rfl]
  | cons first rest ih =>
    obtain ⟨k, v⟩ := first
    by_cases hsame : hash.ofLabels k = hash.ofLabels key
    · rw [Samples.adjust, if_pos hsame, Samples.adjust, if_pos hsame, Samples.adjust, if_pos hsame]
    · rw [Samples.adjust, if_neg hsame, Samples.adjust, if_neg hsame, Samples.adjust,
        if_neg hsame, ih]

/-- A sample comes from the observation or is an old one. -/
lemma mem_adjust {sample : κ × ν} (h : sample ∈ s.adjust hash key initial f) :
    (hash.ofLabels sample.1 = hash.ofLabels key ∧
      ∃ v, (v = initial ∧ sample.1 = key ∨ (sample.1, v) ∈ s) ∧ sample.2 = f v) ∨ sample ∈ s := by
  induction s with
  | nil =>
    obtain rfl := List.mem_singleton.mp h
    exact .inl ⟨rfl, initial, .inl ⟨rfl, rfl⟩, rfl⟩
  | cons first rest ih =>
    obtain ⟨k, v⟩ := first
    rw [Samples.adjust] at h
    split at h
    · next hsame =>
      rcases List.mem_cons.mp h with rfl | hrest
      · exact .inl ⟨hsame, v, .inr List.mem_cons_self, rfl⟩
      · exact .inr (List.mem_cons_of_mem _ hrest)
    · rcases List.mem_cons.mp h with rfl | hrest
      · exact .inr List.mem_cons_self
      · rcases ih hrest with ⟨hsame, v', hvalue, hsample⟩ | hold
        · exact .inl ⟨hsame, v', hvalue.imp_right (List.mem_cons_of_mem _), hsample⟩
        · exact .inr (List.mem_cons_of_mem _ hold)

/-- The sample that an observation belongs to, new or not. -/
lemma exists_mem_adjust (s : Samples κ ν) (key : κ) (initial : ν) (f : ν → ν) :
    ∃ k v, hash.ofLabels k = hash.ofLabels key ∧ (v = initial ∧ k = key ∨ (k, v) ∈ s) ∧
      (k, f v) ∈ s.adjust hash key initial f := by
  induction s with
  | nil => exact ⟨key, initial, rfl, .inl ⟨rfl, rfl⟩, List.mem_singleton_self _⟩
  | cons first rest ih =>
    obtain ⟨k, v⟩ := first
    by_cases hsame : hash.ofLabels k = hash.ofLabels key
    · rw [Samples.adjust, if_pos hsame]
      exact ⟨k, v, hsame, .inr List.mem_cons_self, List.mem_cons_self⟩
    · obtain ⟨k', v', hkey, hvalue, hmem⟩ := ih
      rw [Samples.adjust, if_neg hsame]
      exact ⟨k', v', hkey, hvalue.imp_right (List.mem_cons_of_mem _),
        List.mem_cons_of_mem _ hmem⟩

/-- The labels that are there stay. -/
lemma exists_mem_adjust_of_mem {sample : κ × ν} (h : sample ∈ s) :
    ∃ v, (sample.1, v) ∈ s.adjust hash key initial f := by
  induction s with
  | nil => nomatch h
  | cons first rest ih =>
    obtain ⟨k, v⟩ := first
    rw [Samples.adjust]
    split
    · rcases List.mem_cons.mp h with rfl | hrest
      · exact ⟨f v, List.mem_cons_self⟩
      · exact ⟨sample.2, List.mem_cons_of_mem _ hrest⟩
    · rcases List.mem_cons.mp h with rfl | hrest
      · exact ⟨v, List.mem_cons_self⟩
      · obtain ⟨v', hmem⟩ := ih hrest
        exact ⟨v', List.mem_cons_of_mem _ hmem⟩

/-- One observation counts for its key, among keys that have its hash as one. -/
lemma sumOver_adjust (hinitial : weight initial = 0) (hf : ∀ v, weight (f v) = weight v + 1)
    {p : κ → Bool}
    (hp : ∀ sample ∈ s, hash.ofLabels sample.1 = hash.ofLabels key → p sample.1 = p key) :
    (s.adjust hash key initial f).sumOver weight p =
      s.sumOver weight p + if p key then 1 else 0 := by
  induction s with
  | nil => simp [Samples.adjust, sumOver, hf, hinitial]
  | cons first rest ih =>
    obtain ⟨k, v⟩ := first
    obtain ⟨hfirst, hrest⟩ := List.forall_mem_cons.mp hp
    by_cases hsame : hash.ofLabels k = hash.ofLabels key
    · rw [Samples.adjust, if_pos hsame, sumOver, sumOver, hf, hfirst hsame]
      split <;> omega
    · rw [Samples.adjust, if_neg hsame, sumOver, sumOver, ih hrest, Nat.add_assoc]

/-- Observations that come to the same are under one hash. -/
lemma hash_eq_of_adjust_eq (weight : ν → Nat) {key' : κ} {initial' : ν} {f' : ν → ν}
    (hinitial : weight initial = 0) (hinitial' : weight initial' = 0)
    (hf : ∀ v, weight (f v) = weight v + 1) (hf' : ∀ v, weight (f' v) = weight v + 1)
    (h : s.adjust hash key initial f = s.adjust hash key' initial' f') :
    hash.ofLabels key = hash.ofLabels key' := by
  let p (k : κ) : Bool := hash.ofLabels k = hash.ofLabels key
  have hp {k k' : κ} (hsame : hash.ofLabels k = hash.ofLabels k') : p k = p k' := by
    simp only [p, hsame]
  have hleft : (s.adjust hash key initial f).sumOver weight p =
      s.sumOver weight p + if p key then 1 else 0 := sumOver_adjust hinitial hf fun _ _ => hp
  have hright : (s.adjust hash key' initial' f').sumOver weight p =
      s.sumOver weight p + if p key' then 1 else 0 := sumOver_adjust hinitial' hf' fun _ _ => hp
  rw [if_pos (decide_eq_true rfl), h, hright] at hleft
  by_contra hne
  rw [if_neg (by simpa [p] using Ne.symm hne)] at hleft
  omega

/-- No two samples have the same hash. -/
def Distinct (hash : LabelHash) (s : Samples κ ν) : Prop :=
  (s.map fun sample => hash.ofLabels sample.1).Nodup

lemma Distinct.eq_of_hash_eq (hs : s.Distinct hash) {a b : κ × ν} (ha : a ∈ s) (hb : b ∈ s)
    (hsame : hash.ofLabels a.1 = hash.ofLabels b.1) : a = b :=
  List.inj_on_of_nodup_map hs ha hb hsame

lemma Distinct.adjust (hs : s.Distinct hash) : (s.adjust hash key initial f).Distinct hash := by
  induction s with
  | nil => exact List.nodup_singleton _
  | cons first rest ih =>
    obtain ⟨k, v⟩ := first
    obtain ⟨hfirst, hrest⟩ := List.nodup_cons.mp hs
    rw [Samples.adjust]
    split
    · exact hs
    · next hother =>
      refine List.nodup_cons.mpr ⟨fun hmem => ?_, ih hrest⟩
      obtain ⟨sample, hsample, hsame⟩ := List.mem_map.mp hmem
      rcases mem_adjust hsample with ⟨hkey, -⟩ | hold
      · exact hother (hsame.symm.trans hkey)
      · exact hfirst (List.mem_map.mpr ⟨sample, hold, hsame⟩)

lemma Distinct.sumOver_hash (hs : s.Distinct hash) (weight : ν → Nat) {sample : κ × ν}
    (h : sample ∈ s) :
    s.sumOver weight (fun k => hash.ofLabels k = hash.ofLabels sample.1) = weight sample.2 := by
  induction s with
  | nil => nomatch h
  | cons first rest ih =>
    obtain ⟨k, v⟩ := first
    obtain ⟨hfirst, hrest⟩ := List.nodup_cons.mp hs
    rw [sumOver]
    rcases List.mem_cons.mp h with rfl | hmem
    · rw [if_pos (decide_eq_true rfl), sumOver_eq_zero, Nat.add_zero]
      intro other hother
      exact decide_eq_false fun hsame => hfirst (List.mem_map.mpr ⟨other, hother, hsame⟩)
    · have hother : hash.ofLabels k ≠ hash.ofLabels sample.1 := fun hsame =>
        hfirst (List.mem_map.mpr ⟨sample, hmem, hsame.symm⟩)
      rw [if_neg (by simpa using hother), ih hrest hmem, Nat.zero_add]

lemma Distinct.valueOf_eq_sumOver [DecidableEq κ] (hs : s.Distinct hash) (key : κ) :
    s.valueOf weight key = s.sumOver weight (· = key) := by
  induction s with
  | nil => rfl
  | cons first rest ih =>
    obtain ⟨k, v⟩ := first
    obtain ⟨hfirst, hrest⟩ := List.nodup_cons.mp hs
    rw [valueOf, sumOver]
    by_cases hk : k = key
    · rw [if_pos hk, if_pos (decide_eq_true hk), sumOver_eq_zero, Nat.add_zero]
      intro other hother
      exact decide_eq_false fun hsame =>
        hfirst (List.mem_map.mpr ⟨other, hother, congrArg hash.ofLabels (hsame.trans hk.symm)⟩)
    · rw [if_neg hk, if_neg (by simpa using hk), ih hrest, Nat.zero_add]

/-- Where all samples stand at their initial value, an observation tells one from the others. -/
lemma value_of_mem_adjust [DecidableEq κ] (hs : s.Distinct hash) (key : κ) (f : ν → ν)
    (hidle : ∀ sample ∈ s, sample.2 = initial) :
    ∃ k, hash.ofLabels k = hash.ofLabels key ∧ (k = key ∨ k ∈ s.map Prod.fst) ∧
      (k, f initial) ∈ s.adjust hash key initial f ∧
      ∀ sample ∈ s.adjust hash key initial f,
        sample.2 = if sample.1 = k then f initial else initial := by
  obtain ⟨k, v, hsame, hvalue, hmem⟩ := exists_mem_adjust s key initial f
  have hv : v = initial := hvalue.elim And.left (hidle (k, v))
  have hk : k = key ∨ k ∈ s.map Prod.fst := hvalue.imp And.right List.mem_map_of_mem
  rw [hv] at hmem
  refine ⟨k, hsame, hk, hmem, fun sample hsample => ?_⟩
  by_cases hown : sample.1 = k
  · rw [if_pos hown, hs.adjust.eq_of_hash_eq hsample hmem (congrArg hash.ofLabels hown)]
  · rw [if_neg hown]
    rcases mem_adjust hsample with ⟨hkey, -⟩ | hold
    · exact absurd (congrArg Prod.fst
        (hs.adjust.eq_of_hash_eq hsample hmem (hkey.trans hsame.symm))) hown
    · exact hidle sample hold

/-! ## Families after some observations -/

/-- There are samples for these keys and no others, one for each hash. -/
structure Covers (hash : LabelHash) (done : List κ) (s : Samples κ ν) : Prop where
  within : s.Within done
  reached : ∀ k ∈ done, ∃ sample ∈ s, hash.ofLabels sample.1 = hash.ofLabels k
  distinct : s.Distinct hash

/-- The samples count one observation under each of these keys. -/
structure Counts (hash : LabelHash) (weight : ν → Nat) (done : List κ) (s : Samples κ ν) : Prop
    extends Covers hash done s where
  sumOver : ∀ p : κ → Bool,
    (∀ k ∈ done, ∀ k' ∈ done, hash.ofLabels k = hash.ofLabels k' → p k = p k') →
      s.sumOver weight p = done.countP p

variable {done : List κ}

lemma Covers.nil : Covers hash [] ([] : Samples κ ν) where
  within _ h := nomatch h
  reached _ h := nomatch h
  distinct := List.nodup_nil

lemma Covers.adjust (hs : Covers hash done s) (key : κ) :
    Covers hash (done ++ [key]) (s.adjust hash key initial f) where
  within := by
    intro sample hsample
    rcases mem_adjust hsample with ⟨-, v, ⟨-, hkey⟩ | hold, -⟩ | hold
    · rw [hkey]
      exact List.mem_append_right _ (List.mem_singleton_self key)
    · exact List.mem_append_left _ (hs.within (sample.1, v) hold)
    · exact List.mem_append_left _ (hs.within sample hold)
  reached := by
    intro k hk
    rcases List.mem_append.mp hk with hdone | hnew
    · obtain ⟨sample, hsample, hsame⟩ := hs.reached k hdone
      obtain ⟨v, hmem⟩ := exists_mem_adjust_of_mem hsample
      exact ⟨(sample.1, v), hmem, hsame⟩
    · obtain ⟨k', v, hsame, -, hmem⟩ := exists_mem_adjust s key initial f
      rw [List.mem_singleton.mp hnew]
      exact ⟨(k', f v), hmem, hsame⟩
  distinct := hs.distinct.adjust

lemma Covers.mem_keys_iff (hs : Covers hash done s) (hapart : hash.TellsApart done) {k : κ} :
    k ∈ s.map Prod.fst ↔ k ∈ done := by
  constructor
  · intro hk
    obtain ⟨sample, hsample, rfl⟩ := List.mem_map.mp hk
    exact hs.within sample hsample
  · intro hk
    obtain ⟨sample, hsample, hsame⟩ := hs.reached k hk
    rw [← hapart _ (hs.within sample hsample) k hk hsame]
    exact List.mem_map_of_mem hsample

lemma Counts.nil : Counts hash weight [] ([] : Samples κ ν) where
  toCovers := Covers.nil
  sumOver _ _ := rfl

lemma Counts.adjust (hs : Counts hash weight done s) (key : κ) (initial : ν)
    (hinitial : weight initial = 0) (hf : ∀ v, weight (f v) = weight v + 1) :
    Counts hash weight (done ++ [key]) (s.adjust hash key initial f) where
  toCovers := hs.toCovers.adjust key
  sumOver p hp := by
    have hkey : key ∈ done ++ [key] := List.mem_append_right _ (List.mem_singleton_self key)
    have hmem {k : κ} (hk : k ∈ done) : k ∈ done ++ [key] := List.mem_append_left _ hk
    rw [sumOver_adjust hinitial hf fun sample hsample =>
        hp _ (hmem (hs.within sample hsample)) key hkey,
      hs.sumOver p fun k hk k' hk' => hp k (hmem hk) k' (hmem hk'), List.countP_append,
      List.countP_singleton]

namespace Counts

lemma sumOver_true (hs : Counts hash weight done s) :
    s.sumOver weight (fun _ => true) = done.length := by
  rw [hs.sumOver _ fun _ _ _ _ _ => rfl, List.countP_true]

/-- A sample counts what was observed under its hash. -/
lemma weight_of_mem (hs : Counts hash weight done s) {sample : κ × ν} (h : sample ∈ s) :
    weight sample.2 = done.countP (hash.ofLabels · = hash.ofLabels sample.1) := by
  rw [← hs.distinct.sumOver_hash weight h]
  exact hs.sumOver _ fun _ _ _ _ hsame => by rw [hsame]

lemma sumOver_eq (hs : Counts hash weight done s) (hapart : hash.TellsApart done) (p : κ → Bool) :
    s.sumOver weight p = done.countP p :=
  hs.sumOver p fun k hk k' hk' hsame => congrArg p (hapart k hk k' hk' hsame)

lemma valueOf_eq [DecidableEq κ] (hs : Counts hash weight done s) (hapart : hash.TellsApart done)
    (k : κ) : s.valueOf weight k = done.count k := by
  rw [hs.distinct.valueOf_eq_sumOver, hs.sumOver_eq hapart, List.count_eq_countP]
  rfl

end Counts

end Adjust

end Samples

end FacetSearch
