import StyleGuide.Proofs.Tree.Assembly

namespace StyleGuide.Tree

theorem Ordered.view_child {t c : Tree} (h : Ordered t) (hc : c ∈ t.children) (path : List Text) :
    t.view (c.key :: path) = c.view path := by
  have hchild : t.child? c.key = some c := h.child?_eq_some_iff.mpr ⟨hc, rfl⟩
  rw [view_cons, hchild, Option.bind_some]

theorem Ordered.exists_child_of_view {t : Tree} (h : Ordered t) {key : Text}
    {e : Option TreeEntry} (hview : t.view [key] = some e) : ∃ c ∈ t.children, c.key = key := by
  rw [view_cons, Option.bind_eq_some_iff] at hview
  obtain ⟨c, hc, _⟩ := hview
  exact ⟨c, h.child?_eq_some_iff.mp hc⟩

/-- An ordered tree is determined by its key and by what stands at its paths. -/
theorem Ordered.eq_of_view {t u : Tree} (ht : Ordered t) (hu : Ordered u) (hkey : t.key = u.key)
    (h : ∀ path, t.view path = u.view path) : t = u := by
  induction ht generalizing u with
  | @node k e cs hcs hsub ih =>
    have ht : Ordered (.node k e cs) := .node hcs hsub
    obtain ⟨k', e', ds⟩ := u
    obtain rfl : k = k' := hkey
    obtain rfl : e = e' := Option.some.inj (h [])
    -- By induction on `t`, children under one key agree; so the two lists have the same members.
    have hsame : ∀ c ∈ cs, ∀ d ∈ ds, d.key = c.key → c = d := by
      intro c hc d hd hdc
      apply ih c hc (hu.child hd) hdc.symm
      intro path
      rw [← ht.view_child hc, h, ← hdc, hu.view_child hd]
    congr 1
    apply Text.eq_of_ascending hcs hu.ascending
    intro c
    constructor
    · intro hc
      have hview : (Tree.node k e ds).view [c.key] = some c.entry := by
        rw [← h, ht.view_child hc, view_nil]
      obtain ⟨d, hd, hdc⟩ := hu.exists_child_of_view hview
      rwa [hsame c hc d hd hdc]
    · intro hc
      have hview : (Tree.node k e cs).view [c.key] = some c.entry := by
        rw [h, hu.view_child hc, view_nil]
      obtain ⟨d, hd, hdc⟩ := ht.exists_child_of_view hview
      rwa [← hsame d hd c hc hdc.symm]

/-- The entry that the last of the records at a path asks for. -/
def lastEntry (records : List Record) (path : List Text) : Option TreeEntry :=
  (records.filter (path? · = some path)).getLast?.map documented

theorem lastEntry_isSome_iff {records : List Record} {path : List Text} :
    (lastEntry records path).isSome = true ↔ ∃ r ∈ records, path? r = some path := by
  rw [lastEntry, Option.isSome_map, List.getLast?_isSome, ne_eq, List.filter_eq_nil_iff]
  simp

theorem any_passes_iff {records : List Record} {q : List Text} :
    records.any (passes q) = true ↔
      ∃ path, q <+: path ∧ (lastEntry records path).isSome = true := by
  simp only [List.any_eq_true, passes_iff, lastEntry_isSome_iff]
  constructor
  · rintro ⟨r, hr, path, hpath, hq⟩
    exact ⟨path, hq, r, hr, hpath⟩
  · rintro ⟨path, hq, r, hr, hpath⟩
    exact ⟨r, hr, path, hpath, hq⟩

theorem lastEntry_eq_view (records : List Record) (path : List Text) :
    lastEntry records path = ((assemble records).2.view path).getD none := by
  rw [view_assemble]
  split_ifs with hpath
  · rfl
  · rw [not_or] at hpath
    rw [lastEntry, filter_path?_of_not_passes hpath.2]
    rfl

theorem view_assemble_congr {rs ss : List Record}
    (h : ∀ path, lastEntry rs path = lastEntry ss path) (q : List Text) :
    (assemble rs).2.view q = (assemble ss).2.view q := by
  have hany : rs.any (passes q) = ss.any (passes q) := by
    rw [Bool.eq_iff_iff, any_passes_iff, any_passes_iff]
    simp only [h]
  have hlast := h q
  rw [lastEntry, lastEntry] at hlast
  rw [view_assemble, view_assemble, hany, hlast]

theorem key_place (t : Tree) (r : Record) : (t.place r).2.key = t.key := by
  rw [place_eq]
  cases path? r with
  | none => rfl
  | some path =>
    apply key_alter
    rintro ⟨⟩
    rfl

theorem key_placeAll (t : Tree) (rs : List Record) : (t.placeAll rs).2.key = t.key := by
  induction rs generalizing t with
  | nil => rfl
  | cons r rs ih => exact (ih (t.place r).2).trans (key_place t r)

theorem assemble_eq_iff (rs ss : List Record) :
    (assemble rs).2 = (assemble ss).2 ↔ ∀ path, lastEntry rs path = lastEntry ss path := by
  constructor
  · intro h path
    rw [lastEntry_eq_view, h, ← lastEntry_eq_view]
  · intro h
    have hkey (records : List Record) : (assemble records).2.key = [] :=
      key_placeAll (leaf []) records
    apply Ordered.eq_of_view
    · exact (ordered_leaf []).placeAll rs
    · exact (ordered_leaf []).placeAll ss
    · rw [hkey, hkey]
    · exact view_assemble_congr h

theorem filter_path?_perm {rs ss : List Record} (hdistinct : (rs.filterMap path?).Nodup)
    (h : rs.Perm ss) (path : List Text) :
    rs.filter (path? · = some path) = ss.filter (path? · = some path) := by
  have hperm := h.filter (path? · = some path)
  have hpairs := List.Pairwise.filter (path? · = some path) (List.pairwise_filterMap.mp hdistinct)
  have hat : ∀ r ∈ rs.filter (path? · = some path), path? r = some path := by
    intro r hr
    simpa using (List.mem_filter.mp hr).2
  generalize rs.filter (path? · = some path) = here at hperm hpairs hat
  -- Two records here would have one path between them, so there is at most one.
  match here with
  | [] => exact hperm.nil_eq
  | [r] => exact hperm.singleton_eq
  | r :: s :: _ =>
    have hne := (List.pairwise_cons.mp hpairs).1 s List.mem_cons_self
    exact absurd rfl (hne path (hat r (by simp)) path (hat s (by simp)))

theorem lastEntry_perm {rs ss : List Record} (hdistinct : (rs.filterMap path?).Nodup)
    (h : rs.Perm ss) (path : List Text) : lastEntry rs path = lastEntry ss path := by
  rw [lastEntry, filter_path?_perm hdistinct h, lastEntry]

mutual

/-- The nodes with the paths that lead to them, each in front of its children. -/
def walk : Tree → List (List Text × Tree)
  | node k e cs => ([], node k e cs) :: walkAll cs

def walkAll : List Tree → List (List Text × Tree)
  | [] => []
  | c :: cs => (walk c).map (fun v => (c.key :: v.1, v.2)) ++ walkAll cs

end

theorem walkAll_eq_flatMap (cs : List Tree) :
    walkAll cs = cs.flatMap fun c => (walk c).map fun v => (c.key :: v.1, v.2) := by
  induction cs with
  | nil => rfl
  | cons c cs ih => rw [walkAll, ih, List.flatMap_cons]

theorem walk_eq_cons (t : Tree) :
    walk t = ([], t) ::
      t.children.flatMap fun c => (walk c).map fun v => (c.key :: v.1, v.2) := by
  obtain ⟨k, e, cs⟩ := t
  rw [walk, walkAll_eq_flatMap]
  rfl

theorem mem_walk_iff {t n : Tree} {path : List Text} : (path, n) ∈ walk t ↔ Reaches t path n := by
  induction path generalizing t with
  | nil =>
    rw [walk_eq_cons]
    constructor
    · intro h
      obtain rfl : n = t := by simpa using h
      exact .here n
    · rintro ⟨⟩
      exact List.mem_cons_self
  | cons key path ih =>
    rw [walk_eq_cons]
    constructor
    · intro h
      obtain ⟨c, hc, hn, rfl⟩ : ∃ c ∈ t.children, (path, n) ∈ walk c ∧ c.key = key := by
        simpa using h
      exact .down hc (ih.mp hn)
    · rintro ⟨⟩
      next c hc hn =>
        apply List.mem_cons_of_mem
        exact List.mem_flatMap.mpr ⟨c, hc, List.mem_map.mpr ⟨(path, n), ih.mpr hn, rfl⟩⟩

/-- The order of paths: segment by segment, and a path comes before those that continue it. -/
def PathLt : List Text → List Text → Prop := List.Lex fun a b => Text.precedes a b = true

theorem Ordered.pairwise_walk {t : Tree} (h : Ordered t) :
    (walk t).Pairwise fun v w => PathLt v.1 w.1 := by
  induction h with
  | @node k e cs hcs _ ih =>
    rw [walk_eq_cons, List.pairwise_cons, List.pairwise_flatMap]
    refine ⟨?_, ?_, ?_⟩
    · intro v hv
      obtain ⟨c, _, w, _, rfl⟩ : ∃ c ∈ cs, ∃ w ∈ walk c, (c.key :: w.1, w.2) = v := by
        simpa [children] using hv
      exact .nil
    · intro c hc
      rw [List.pairwise_map]
      exact (ih c hc).imp .cons
    · apply hcs.imp
      intro c d hcd v hv w hw
      obtain ⟨_, _, rfl⟩ := List.mem_map.mp hv
      obtain ⟨_, _, rfl⟩ := List.mem_map.mp hw
      exact .rel hcd

/-- The tree depends on the last entry at each path alone, and its nodes come in the order of their
paths. -/
theorem assemble_canonical (rs ss : List Record) :
    ((∀ path, lastEntry rs path = lastEntry ss path) ↔ (assemble rs).2 = (assemble ss).2) ∧
      ((rs.filterMap path?).Nodup → rs.Perm ss → (assemble rs).2 = (assemble ss).2) ∧
      (∀ path n, (path, n) ∈ walk (assemble rs).2 ↔ Reaches (assemble rs).2 path n) ∧
      ((walk (assemble rs).2).map Prod.fst).Pairwise PathLt := by
  refine ⟨(assemble_eq_iff rs ss).symm, ?_, fun path n => mem_walk_iff, ?_⟩
  · intro hdistinct hperm
    exact (assemble_eq_iff rs ss).mpr (lastEntry_perm hdistinct hperm)
  · exact List.pairwise_map.mpr ((ordered_leaf []).placeAll rs).pairwise_walk

def recordAt (id : String) : Record where
  parameters := .ofList [("id".toList, .text id.toList)]
  sourcePath := Text.bytes "a.css".toList

theorem assemble_canonical_forms :
    ([recordAt "b/c", recordAt "//", recordAt "a", recordAt "b"].filterMap path?).Nodup ∧
      (assemble [recordAt "b/c", recordAt "//", recordAt "a", recordAt "b"]).2 =
        (assemble [recordAt "a", recordAt "b", recordAt "b/c", recordAt "//"]).2 := by
  have hdistinct :
      ([recordAt "b/c", recordAt "//", recordAt "a", recordAt "b"].filterMap path?).Nodup := by
    decide
  refine ⟨hdistinct, (assemble_canonical _ _).2.1 hdistinct ?_⟩
  decide

end StyleGuide.Tree
