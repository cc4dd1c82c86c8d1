import StyleGuide.Proofs.Tree.Nodes
import StyleGuide.Tree.Assembly

namespace StyleGuide.Tree

/-- Where a record stands. It is placed if its id is a text with a segment that is not empty. -/
def path? (r : Record) : Option (List Text) :=
  match r.parameters.get? "id".toList with
  | some (.text id) => if segments id = [] then none else some (segments id)
  | _ => none

def documented (r : Record) : TreeEntry where
  id := (r.text? "id").getD []
  title := (r.parameters.get? "title".toList).map Value.read
  description := if r.description = [] then none else some r.description
  markup := r.markup

def passes (q : List Text) (r : Record) : Bool := (path? r).any q.isPrefixOf

/-- What is said of a record when the records `before` have been placed. -/
def warning? (before : List Record) (r : Record) : Option Warning :=
  match path? r with
  | none => some (.missingId r.sourcePath)
  | some path =>
    if before.any (path? · = some path) then
      some (.duplicateId r.sourcePath ((r.text? "id").getD []))
    else none

theorem path?_ne_nil (r : Record) : path? r ≠ some [] := by
  unfold path?
  split
  · split_ifs with hnil
    · simp
    · simpa using hnil
  · simp

theorem passes_of_path? {q : List Text} {r : Record} (h : path? r = some q) :
    passes q r = true := by
  simp [passes, h]

theorem filter_path?_of_not_passes {rs : List Record} {q : List Text}
    (h : ¬ rs.any (passes q) = true) : rs.filter (path? · = some q) = [] := by
  apply List.filter_eq_nil_iff.mpr
  intro r hr hat
  exact h (List.any_eq_true.mpr ⟨r, hr, passes_of_path? (by simpa using hat)⟩)

theorem filter_path?_nil (rs : List Record) : rs.filter (path? · = some []) = [] := by
  apply List.filter_eq_nil_iff.mpr
  intro r _
  simpa using path?_ne_nil r

theorem passes_iff {q : List Text} {r : Record} :
    passes q r = true ↔ ∃ path, path? r = some path ∧ q <+: path := by
  rw [passes]
  cases path? r <;> simp

theorem place_eq (t : Tree) (r : Record) :
    t.place r =
      match path? r with
      | none => ([.warning (.missingId r.sourcePath)], t)
      | some path =>
        (if ((t.view path).getD none).isSome then
          [.warning (.duplicateId r.sourcePath ((r.text? "id").getD []))] else [],
          t.alter (setEntry (some (documented r))) path) := by
  have hview (path : List Text) : (t.descend? path).bind entry = (t.view path).getD none := by
    rw [view]
    cases t.descend? path <;> rfl
  unfold place usableId? path? documented Record.text?
  cases hid : r.parameters.get? "id".toList with
  | none => rfl
  | some v =>
    cases v with
    | flag => rfl
    | text id =>
      by_cases hnil : segments id = []
      · simp [hnil]
      · simp [hnil, hview, entryOf, Record.param?]

theorem Ordered.place {t : Tree} (h : Ordered t) (r : Record) : Ordered (t.place r).2 := by
  rw [place_eq]
  cases path? r with
  | none => exact h
  | some path =>
    apply h.alter
    · rintro ⟨⟩
      rfl
    · intro n hn
      exact ordered_setEntry hn

theorem Ordered.placeAll {t : Tree} (h : Ordered t) (rs : List Record) :
    Ordered (t.placeAll rs).2 := by
  induction rs generalizing t with
  | nil => exact h
  | cons r rs ih => exact ih (h.place r)

theorem view_place {t : Tree} (h : Ordered t) (r : Record) (q : List Text) :
    (t.place r).2.view q =
      if path? r = some q then some (some (documented r))
      else if passes q r then some ((t.view q).getD none)
      else t.view q := by
  rw [place_eq, passes]
  cases path? r with
  | none => simp
  | some path =>
    have halter := view_alter (f := setEntry (some (documented r)))
      (g := fun _ => some (documented r)) (by rintro ⟨⟩; rfl) (by rintro ⟨⟩; rfl)
      (by rintro ⟨⟩; rfl) path h q
    simp only [halter, Option.some.injEq, Option.any_some, List.isPrefixOf_iff_prefix,
      eq_comm (a := q)]

/-- After all records have been placed, the last one at a path is what stands there. -/
theorem view_placeAll {t : Tree} (h : Ordered t) (rs : List Record) (q : List Text) :
    (t.placeAll rs).2.view q =
      if rs.any (passes q) then
        some (((rs.filter (path? · = some q)).getLast?.map documented).or ((t.view q).getD none))
      else t.view q := by
  induction rs generalizing t with
  | nil => rfl
  | cons r rs ih =>
    have hstep : (t.placeAll (r :: rs)).2 = ((t.place r).2.placeAll rs).2 := rfl
    rw [hstep, ih (h.place r), view_place h]
    by_cases hr : path? r = some q
    · have hpass := passes_of_path? hr
      by_cases hrs : rs.any (passes q) = true
      · cases hlast : (rs.filter (path? · = some q)).getLast? <;>
          simp [hr, hpass, hrs, List.getLast?_cons, hlast]
      · simp [hr, hpass, hrs, filter_path?_of_not_passes hrs]
    · by_cases hpass : passes q r = true
      · by_cases hrs : rs.any (passes q) = true
        · simp [hr, hpass, hrs]
        · simp [hr, hpass, hrs, filter_path?_of_not_passes hrs]
      · simp [hr, hpass]

theorem events_place {t : Tree} {before : List Record}
    (htaken : ∀ path, ((t.view path).getD none).isSome = before.any (path? · = some path))
    (r : Record) : (t.place r).1 = (warning? before r).toList.map Event.warning := by
  rw [place_eq, warning?]
  cases path? r with
  | none => rfl
  | some path =>
    simp only [htaken]
    split_ifs <;> rfl

theorem taken_place {t : Tree} (h : Ordered t) {before : List Record}
    (htaken : ∀ path, ((t.view path).getD none).isSome = before.any (path? · = some path))
    (r : Record) (path : List Text) :
    (((t.place r).2.view path).getD none).isSome = (before ++ [r]).any (path? · = some path) := by
  rw [view_place h, List.any_append, ← htaken]
  by_cases hr : path? r = some path
  · simp [hr]
  · by_cases hpass : passes path r = true <;> simp [hr, hpass]

theorem events_placeAll {t : Tree} (h : Ordered t) {before : List Record}
    (htaken : ∀ path, ((t.view path).getD none).isSome = before.any (path? · = some path))
    (rs : List Record) :
    (t.placeAll rs).1 =
      ((rs.zipIdx before.length).filterMap fun (r, i) =>
        warning? ((before ++ rs).take i) r).map Event.warning := by
  induction rs generalizing t before with
  | nil => rfl
  | cons r rs ih =>
    have hrest := ih (h.place r) (taken_place h htaken r)
    rw [List.length_append, List.length_singleton, List.append_assoc, List.singleton_append]
      at hrest
    have hstep : (t.placeAll (r :: rs)).1 = (t.place r).1 ++ ((t.place r).2.placeAll rs).1 := rfl
    have hbefore : (before ++ r :: rs).take before.length = before := List.take_left
    rw [hstep, hrest, events_place htaken, List.zipIdx_cons, List.filterMap_cons]
    simp only [hbefore]
    cases warning? before r <;> rfl

/-- The tree is a map from paths to entries in which the last record at a path wins. -/
structure Maps (records : List Record) (events : List Event) (root : Tree) : Prop where
  reachable : ∀ p, p ≠ [] →
    ((∃ n, Reaches root p n) ↔ ∃ r ∈ records, ∃ path, path? r = some path ∧ p <+: path)
  entry : ∀ p n, Reaches root p n →
    n.entry = (records.filter (path? · = some p)).getLast?.map documented
  root_entry : root.entry = none
  ascending : ∀ p n, Reaches root p n →
    n.children.Pairwise fun a b => Text.precedes a.key b.key = true
  alive : ∀ p n, p ≠ [] → Reaches root p n → n.entry ≠ none ∨ n.children ≠ []
  found : ∀ p n, root.descend? p = some n ↔ Reaches root p n
  warned : events =
    (records.zipIdx.filterMap fun (r, i) => warning? (records.take i) r).map Event.warning

theorem view_assemble (records : List Record) (q : List Text) :
    (assemble records).2.view q =
      if q = [] ∨ records.any (passes q) = true then
        some ((records.filter (path? · = some q)).getLast?.map documented)
      else none := by
  rw [assemble, view_placeAll (ordered_leaf [])]
  cases q with
  | nil => simp [filter_path?_nil, leaf, Tree.entry]
  | cons key q =>
    simp only [view_leaf_cons, Option.getD_none, Option.or_none, reduceCtorEq, false_or]

theorem reaches_assemble_iff (records : List Record) {p : List Text} (hp : p ≠ []) :
    (∃ n, Reaches (assemble records).2 p n) ↔
      ∃ r ∈ records, ∃ path, path? r = some path ∧ p <+: path := by
  have hord : Ordered (assemble records).2 := (ordered_leaf []).placeAll records
  have hview := view_assemble records p
  simp only [← hord.descend?_eq_some_iff, ← Option.isSome_iff_exists]
  have hsome : ((assemble records).2.descend? p).isSome =
      ((assemble records).2.view p).isSome := by rw [view, Option.isSome_map]
  rw [hsome, hview]
  by_cases hany : records.any (passes p) = true
  · rw [if_pos (Or.inr hany)]
    simpa [passes_iff] using hany
  · rw [if_neg (not_or.mpr ⟨hp, hany⟩)]
    simpa [passes_iff] using hany

theorem maps_assemble (records : List Record) :
    Maps records (assemble records).1 (assemble records).2 := by
  have hord : Ordered (assemble records).2 := (ordered_leaf []).placeAll records
  have hentry : ∀ p n, Reaches (assemble records).2 p n →
      n.entry = (records.filter (path? · = some p)).getLast?.map documented := by
    intro p n hn
    have hview := view_assemble records p
    rw [view, hord.descend?_eq_some_iff.mpr hn, Option.map_some] at hview
    split_ifs at hview
    exact Option.some.inj hview
  refine ⟨fun p hp => reaches_assemble_iff records hp, hentry, ?_, ?_, ?_, ?_, ?_⟩
  · have hview := view_assemble records []
    simpa [filter_path?_nil] using hview
  · intro p n hn
    exact (hord.reaches hn).ascending
  · intro p n hp hn
    obtain ⟨r, hr, path, hpath, key, rfl⟩ := (reaches_assemble_iff records hp).mp ⟨n, hn⟩
    cases key with
    | nil =>
      apply Or.inl
      rw [hentry p n hn, ne_eq, Option.map_eq_none_iff, List.getLast?_eq_none_iff,
        List.filter_eq_nil_iff]
      intro hno
      exact hno r hr (by simpa using hpath)
    | cons k rest =>
      apply Or.inr
      have hdeep : ∃ m, Reaches (assemble records).2 (p ++ [k]) m :=
        (reaches_assemble_iff records (by simp)).mpr ⟨r, hr, _, hpath, rest, by simp⟩
      obtain ⟨m, hm⟩ := hdeep
      rw [← hord.descend?_eq_some_iff, descend?_append, hord.descend?_eq_some_iff.mpr hn,
        Option.bind_some, (hord.reaches hn).descend?_eq_some_iff] at hm
      cases hm with
      | down hc _ => exact List.ne_nil_of_mem hc
  · intro p n
    exact hord.descend?_eq_some_iff
  · have hempty (path : List Text) : (((leaf []).view path).getD none).isSome =
        ([] : List Record).any (path? · = some path) := by
      cases path with
      | nil => rfl
      | cons key path => simp [view_leaf_cons]
    exact events_placeAll (ordered_leaf []) hempty records

end StyleGuide.Tree
