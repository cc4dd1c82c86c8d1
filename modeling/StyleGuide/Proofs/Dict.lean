import StyleGuide.Dict
import StyleGuide.Proofs.Text.Order

namespace StyleGuide.Dict

variable {α β : Type}

theorem lookup_place (key k : Text) (v : α) (es : List (Text × α)) :
    (place key v es).lookup k = if k = key then some v else es.lookup k := by
  induction es with
  | nil => by_cases h : k = key <;> simp [place, List.lookup_cons, h, beq_eq_false_iff_ne.mpr]
  | cons e es ih =>
    rw [place]
    by_cases h : k = key
    · subst h
      rw [if_pos rfl] at ih ⊢
      split_ifs with _ heq
      · simp
      · simp
      · rw [List.lookup_cons, beq_eq_false_iff_ne.mpr heq, ih]
    · have hk : (k == key) = false := beq_eq_false_iff_ne.mpr h
      rw [if_neg h] at ih ⊢
      split_ifs with _ heq
      · rw [List.lookup_cons, hk]
      · rw [List.lookup_cons, List.lookup_cons, ← heq, hk]
      · rw [List.lookup_cons, List.lookup_cons, ih]

@[simp] theorem get?_insert (d : Dict α) (key k : Text) (v : α) :
    (d.insert key v).get? k = if k = key then some v else d.get? k :=
  lookup_place key k v d.entries

@[simp] theorem get?_empty (k : Text) : (∅ : Dict α).get? k = none := rfl

@[simp] theorem get?_map (f : α → β) (d : Dict α) (k : Text) :
    (d.map f).get? k = (d.get? k).map f := by
  show (d.entries.map fun e => (e.1, f e.2)).lookup k = (d.entries.lookup k).map f
  induction d.entries with
  | nil => rfl
  | cons e es ih =>
    rw [List.map_cons, List.lookup_cons, List.lookup_cons, ih]
    cases k == e.1 <;> rfl

theorem get?_eq_some_iff {d : Dict α} {k : Text} {v : α} :
    d.get? k = some v ↔ (k, v) ∈ d.entries := by
  rw [get?, List.lookup_eq_some_iff]
  constructor
  · rintro ⟨front, rest, h, _⟩
    simp [h]
  · intro h
    obtain ⟨front, rest, h⟩ := List.append_of_mem h
    refine ⟨front, rest, h, fun p hp => ?_⟩
    have hlt := d.ascending
    rw [h, List.pairwise_append] at hlt
    have hpk : Text.precedes p.1 k := hlt.2.2 p hp (k, v) List.mem_cons_self
    simpa using (Text.ne_of_precedes hpk).symm

theorem mem_keys_iff {d : Dict α} {k : Text} : k ∈ d.keys ↔ ∃ v, d.get? k = some v := by
  simp [keys, get?_eq_some_iff]

theorem contains_iff {d : Dict α} {k : Text} : d.contains k = true ↔ k ∈ d.keys := by
  rw [contains, Option.isSome_iff_exists, mem_keys_iff]

theorem keys_ascending (d : Dict α) : d.keys.Pairwise fun a b => Text.precedes a b :=
  List.pairwise_map.mpr d.ascending

theorem ext_get? {d e : Dict α} (h : ∀ k, d.get? k = e.get? k) : d = e := by
  have hentries : d.entries = e.entries := by
    apply Text.eq_of_ascending d.ascending e.ascending
    rintro ⟨k, v⟩
    rw [← get?_eq_some_iff, ← get?_eq_some_iff, h]
  cases d
  cases e
  simpa using hentries

theorem insert_insert (d : Dict α) (k : Text) (v w : α) :
    (d.insert k v).insert k w = d.insert k w := by
  apply ext_get?
  intro j
  by_cases h : j = k <;> simp [h]

theorem insert_comm (d : Dict α) {k l : Text} (h : k ≠ l) (v w : α) :
    (d.insert k v).insert l w = (d.insert l w).insert k v := by
  apply ext_get?
  intro j
  by_cases hk : j = k
  · simp [hk, h]
  · simp [hk]

theorem get?_foldl_insert (es : List (Text × α)) (d : Dict α) (k : Text) :
    (es.foldl (fun d e => d.insert e.1 e.2) d).get? k =
      ((es.reverse.find? (·.1 = k)).map Prod.snd).or (d.get? k) := by
  induction es generalizing d with
  | nil => simp
  | cons e es ih =>
    rw [List.foldl_cons, ih, List.reverse_cons, List.find?_append, get?_insert]
    cases es.reverse.find? (·.1 = k) with
    | some p => simp
    | none =>
      by_cases h : e.1 = k
      · simp [h]
      · simp [h, Ne.symm h]

theorem get?_ofList (es : List (Text × α)) (k : Text) :
    (ofList es).get? k = (es.reverse.find? (·.1 = k)).map Prod.snd := by
  rw [ofList, get?_foldl_insert, get?_empty, Option.or_none]

theorem ofList_perm {es : List (Text × α)} {d : Dict α} (h : es.Perm d.entries) :
    ofList es = d := by
  apply ext_get?
  intro k
  rw [get?_ofList]
  cases hf : es.reverse.find? (·.1 = k) with
  | some p =>
    have hp : p ∈ d.entries := h.mem_iff.mp (by simpa using List.mem_of_find?_eq_some hf)
    have hk : p.1 = k := by simpa using List.find?_some hf
    exact (get?_eq_some_iff.mpr (hk ▸ hp)).symm
  | none =>
    have hn : ∀ p ∈ es, p.1 ≠ k := by simpa using List.find?_eq_none.mp hf
    rw [Option.map_none, eq_comm, Option.eq_none_iff_forall_ne_some]
    intro v hv
    exact hn (k, v) (h.mem_iff.mpr (get?_eq_some_iff.mp hv)) rfl

theorem place_split (key : Text) (v : α) {es : List (Text × α)}
    (h : es.Pairwise fun a b => Text.precedes a.1 b.1) :
    ∃ front rest, es = front ++ ((es.lookup key).map fun w => (key, w)).toList ++ rest ∧
      place key v es = front ++ (key, v) :: rest := by
  induction es with
  | nil => exact ⟨[], [], rfl, rfl⟩
  | cons e es ih =>
    obtain ⟨he, hes⟩ := List.pairwise_cons.mp h
    rw [place]
    split_ifs with hlt heq
    · have hnone : (e :: es).lookup key = none := by
        rw [List.lookup_eq_none_iff]
        intro p hp
        have hkey : Text.precedes key p.1 := by
          rcases List.mem_cons.mp hp with rfl | hp
          · exact hlt
          · exact Text.precedes_trans hlt (he p hp)
        simpa using Text.ne_of_precedes hkey
      exact ⟨[], e :: es, by simp [hnone], rfl⟩
    · have hsome : (e :: es).lookup key = some e.2 := by rw [heq, List.lookup_cons_self]
      exact ⟨[], es, by rw [hsome]; simp [heq], rfl⟩
    · obtain ⟨front, rest, hsplit, hplace⟩ := ih hes
      refine ⟨e :: front, rest, ?_, by rw [hplace, List.cons_append]⟩
      rw [List.lookup_cons, beq_eq_false_iff_ne.mpr heq]
      simpa using hsplit

theorem flatMap_insert_perm {γ : Type} (f : Text × α → List γ) (d : Dict α) (key : Text) (v : α) :
    ((d.insert key v).entries.flatMap f ++ ((d.get? key).map fun w => f (key, w)).getD []).Perm
      (d.entries.flatMap f ++ f (key, v)) := by
  obtain ⟨front, rest, hsplit, hplace⟩ := place_split key v d.ascending
  have hinsert : (d.insert key v).entries = front ++ (key, v) :: rest := hplace
  have hentries : d.entries.flatMap f =
      front.flatMap f ++ ((d.get? key).map fun w => f (key, w)).getD [] ++ rest.flatMap f := by
    conv_lhs => rw [hsplit]
    rw [List.flatMap_append, List.flatMap_append, get?]
    cases d.entries.lookup key <;> simp
  rw [hinsert, hentries, List.flatMap_append, List.flatMap_cons]
  generalize ((d.get? key).map fun w => f (key, w)).getD [] = old
  simp only [List.append_assoc]
  apply List.Perm.append_left
  -- Behind the common front only the old value and the new one have changed places.
  calc (f (key, v) ++ (rest.flatMap f ++ old)).Perm (rest.flatMap f ++ old ++ f (key, v)) :=
        List.perm_append_comm
    _ |>.Perm (old ++ rest.flatMap f ++ f (key, v)) := List.perm_append_comm.append_right _
    _ = old ++ (rest.flatMap f ++ f (key, v)) := List.append_assoc _ _ _

end StyleGuide.Dict
