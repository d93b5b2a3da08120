import FacetSearch.Proofs.Json.Lexing
import Mathlib.Data.List.Nodup

/-!
# Written JSON is read back

The tokens of a value make the parser push the value onto what it has read so far. Together with how
a text is cut into tokens, a value that can be written is read back from its text.
-/

namespace FacetSearch

namespace Json

lemma setMember_of_notMem {key : String} {value : Json} {members : List (String × Json)}
    (h : key ∉ members.map Prod.fst) :
    setMember key value members = members ++ [(key, value)] := by
  induction members with
  | nil => rfl
  | cons member members ih =>
    rw [List.map_cons, List.mem_cons, not_or] at h
    rw [setMember, if_neg (Ne.symm h.1), ih h.2, List.cons_append]

/-- A value does not begin with the end of an array. -/
lemma foldlM_tokens_valueOrEnd (frames : List Frame) (v : Json) (ts : List Token) :
    (tokens v ++ ts).foldlM Parser.step ⟨frames, .valueOrEnd⟩ =
      (tokens v ++ ts).foldlM Parser.step ⟨frames, .value⟩ := by
  cases v <;> rfl

lemma itemTokens_cons (v w : Json) (vs : List Json) :
    itemTokens (v :: w :: vs) = tokens v ++ .comma :: itemTokens (w :: vs) := rfl

lemma memberTokens_cons (k : String) (v : Json) (m : String × Json) (ms : List (String × Json)) :
    memberTokens ((k, v) :: m :: ms) =
      .scalar (.string k) :: .colon :: (tokens v ++ .comma :: memberTokens (m :: ms)) := rfl

lemma foldlM_itemTokens_valueOrEnd (frames : List Frame) (v : Json) (vs : List Json)
    (ts : List Token) :
    (itemTokens (v :: vs) ++ ts).foldlM Parser.step ⟨frames, .valueOrEnd⟩ =
      (itemTokens (v :: vs) ++ ts).foldlM Parser.step ⟨frames, .value⟩ := by
  cases vs with
  | nil => exact foldlM_tokens_valueOrEnd frames v ts
  | cons w vs =>
    rw [itemTokens_cons, List.append_assoc]
    exact foldlM_tokens_valueOrEnd frames v _

lemma foldlM_memberTokens_keyOrEnd (frames : List Frame) (m : String × Json)
    (ms : List (String × Json)) (ts : List Token) :
    (memberTokens (m :: ms) ++ ts).foldlM Parser.step ⟨frames, .keyOrEnd⟩ =
      (memberTokens (m :: ms) ++ ts).foldlM Parser.step ⟨frames, .key⟩ := by
  cases ms <;> rfl

mutual

/-- From the tokens of a value the parser reads the value. -/
theorem foldlM_tokens {depth : Nat} {v : Json} (h : Readable depth v) {frames : List Frame}
    (hdepth : frames.length + depth ≤ maxDepth) :
    (tokens v).foldlM Parser.step ⟨frames, .value⟩ = some (Parser.push frames v) := by
  match v, depth, h, hdepth with
  | null, _, _, _ | bool _, _, _, _ | string _, _, _, _ | number _, _, _, _ => rfl
  | array items, depth + 1, h, hdepth =>
    have hroom : frames.length < maxDepth := by omega
    have hopen : Parser.step ⟨frames, .value⟩ .beginArray =
        some ⟨.array [] :: frames, .valueOrEnd⟩ := if_pos hroom
    rw [tokens, List.cons_append, List.foldlM_cons, hopen]
    match items, h with
    | [], _ => rfl
    | v :: vs, h =>
      have hitems := foldlM_itemTokens h (List.cons_ne_nil v vs) [] hdepth
      refine (foldlM_itemTokens_valueOrEnd _ v vs _).trans ?_
      rw [List.foldlM_append, hitems]
      change some (Parser.push frames (array ((v :: vs).reverse ++ []).reverse)) = _
      rw [List.append_nil, List.reverse_reverse]
  | object members, depth + 1, h, hdepth =>
    have hroom : frames.length < maxDepth := by omega
    have hopen : Parser.step ⟨frames, .value⟩ .beginObject =
        some ⟨.object [] "" :: frames, .keyOrEnd⟩ := if_pos hroom
    rw [tokens, List.cons_append, List.foldlM_cons, hopen]
    match members, h with
    | [], _ => rfl
    | m :: ms, h =>
      obtain ⟨last, hmembers⟩ := foldlM_memberTokens h.2 (List.cons_ne_nil m ms) [] "" hdepth h.1
      refine (foldlM_memberTokens_keyOrEnd _ m ms _).trans ?_
      rw [List.foldlM_append, hmembers]
      rfl

/-- From the tokens of the items the parser reads them onto those that it has. -/
theorem foldlM_itemTokens {depth : Nat} {items : List Json} (h : ReadableItems depth items)
    (hne : items ≠ []) (read : List Json) {frames : List Frame}
    (hdepth : frames.length + (depth + 1) ≤ maxDepth) :
    (itemTokens items).foldlM Parser.step ⟨.array read :: frames, .value⟩ =
      some ⟨.array (items.reverse ++ read) :: frames, .separator⟩ := by
  match items, h with
  | v :: vs, h =>
    have hv : (tokens v).foldlM Parser.step ⟨.array read :: frames, .value⟩ =
        some ⟨.array (v :: read) :: frames, .separator⟩ :=
      foldlM_tokens h.1 (by rw [List.length_cons]; omega)
    match vs, h with
    | [], _ => exact hv
    | w :: vs, h =>
      have hvs := foldlM_itemTokens h.2 (List.cons_ne_nil w vs) (v :: read) hdepth
      rw [itemTokens_cons, List.foldlM_append, hv]
      refine hvs.trans ?_
      rw [List.reverse_cons (a := v), List.append_assoc, List.singleton_append]

/-- From the tokens of the members the parser reads them after those that it has. -/
theorem foldlM_memberTokens {depth : Nat} {members : List (String × Json)}
    (h : ReadableMembers depth members) (hne : members ≠ []) (read : List (String × Json))
    (key : String) {frames : List Frame} (hdepth : frames.length + (depth + 1) ≤ maxDepth)
    (hkeys : ((read ++ members).map Prod.fst).Nodup) :
    ∃ last, (memberTokens members).foldlM Parser.step ⟨.object read key :: frames, .key⟩ =
      some ⟨.object (read ++ members) last :: frames, .separator⟩ := by
  match members, h with
  | (k, v) :: ms, h =>
    have hnew : k ∉ read.map Prod.fst := by
      rw [List.map_append, List.nodup_append] at hkeys
      exact fun hmem => hkeys.2.2 k hmem k List.mem_cons_self rfl
    have hv : (tokens v).foldlM Parser.step ⟨.object read k :: frames, .value⟩ =
        some ⟨.object (setMember k v read) k :: frames, .separator⟩ :=
      foldlM_tokens h.1 (by rw [List.length_cons]; omega)
    -- The key is new, so that its value is added at the end.
    rw [setMember_of_notMem hnew] at hv
    match ms, h with
    | [], _ => exact ⟨k, hv⟩
    | m :: ms, h =>
      have hrest : read ++ [(k, v)] ++ m :: ms = read ++ (k, v) :: m :: ms := by
        rw [List.append_assoc, List.singleton_append]
      obtain ⟨last, hms⟩ := foldlM_memberTokens h.2 (List.cons_ne_nil m ms) (read ++ [(k, v)]) k
        hdepth (by rwa [hrest])
      rw [hrest] at hms
      refine ⟨last, ?_⟩
      rw [memberTokens_cons]
      change ((tokens v ++ _).foldlM Parser.step ⟨.object read k :: frames, .value⟩) = _
      rw [List.foldlM_append, hv]
      exact hms

end

lemma parse?_chars {escape : Char → List Char} (hescape : ∀ c, ReadsInside (escape c) [c])
    {v : Json} (h : Readable maxDepth v) : parse? (String.ofList (chars escape v)) = some v := by
  have hvalue : (tokens v).foldlM Parser.step ⟨[], .value⟩ = some ⟨[], .nothing v⟩ :=
    foldlM_tokens h (Nat.le_of_eq (Nat.zero_add maxDepth))
  rw [parse?, String.toList_ofList, (readsUpTo_chars hescape h).tokens?_eq, Option.bind_some,
    ofTokens?, hvalue]
  rfl

/-- A value that can be written is read back from its text. -/
theorem parse?_text {v : Json} (h : Readable maxDepth v) : parse? v.text = some v :=
  parse?_chars readsInside_escapeChar h

/-- It is read back from its text in ASCII, too. -/
theorem parse?_render {v : Json} (h : Readable maxDepth v) : parse? v.render = some v :=
  parse?_chars readsInside_escapeToAscii h

end Json

end FacetSearch
