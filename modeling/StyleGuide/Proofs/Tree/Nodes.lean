import Mathlib.Data.List.Infix
import StyleGuide.Proofs.Text.Order
import StyleGuide.Tree

namespace StyleGuide.Tree

def Ascending (ts : List Tree) : Prop :=
  ts.Pairwise fun a b => Text.precedes a.key b.key = true

/-- The children are in ascending order, at this node and at every node below it. -/
inductive Ordered : Tree → Prop
  | node {k : Text} {e : Option TreeEntry} {cs : List Tree} (h : Ascending cs)
      (hcs : ∀ c ∈ cs, Ordered c) : Ordered (.node k e cs)

/-- From the first tree the path leads to the second one, from child to child by their keys. -/
inductive Reaches : Tree → List Text → Tree → Prop
  | here (t : Tree) : Reaches t [] t
  | down {t c n : Tree} {path : List Text} (hc : c ∈ t.children) (h : Reaches c path n) :
      Reaches t (c.key :: path) n

theorem Ordered.ascending {t : Tree} (h : Ordered t) : Ascending t.children := by
  cases h with
  | node h _ => exact h

theorem Ordered.child {t c : Tree} (h : Ordered t) (hc : c ∈ t.children) : Ordered c := by
  cases h with
  | node _ hcs => exact hcs c hc

theorem Ordered.reaches {t n : Tree} {path : List Text} (h : Ordered t) (hn : Reaches t path n) :
    Ordered n := by
  induction hn with
  | here t => exact h
  | down hc _ ih => exact ih (h.child hc)

theorem ordered_leaf (key : Text) : Ordered (leaf key) := .node .nil (by simp)

theorem ordered_setEntry {e : Option TreeEntry} {t : Tree} (h : Ordered t) :
    Ordered (setEntry e t) := by
  cases h with
  | node h hcs => exact .node h hcs

section Children

variable {key k : Text} {cs : List Tree}

theorem find?_eq_none_of_precedes (h : ∀ c ∈ cs, Text.precedes key c.key = true) :
    cs.find? (·.key = key) = none := by
  rw [List.find?_eq_none]
  intro c hc
  simpa using (Text.ne_of_precedes (h c hc)).symm

theorem find?_eq_none_of_follows (h : ∀ c ∈ cs, Text.precedes c.key key = true) :
    cs.find? (·.key = key) = none := by
  rw [List.find?_eq_none]
  intro c hc
  simpa using Text.ne_of_precedes (h c hc)

/-- Trees in ascending order, cut at the one in the middle. -/
structure Halved (cs front : List Tree) (middle : Tree) (above : List Tree) : Prop where
  eq_append : cs = front ++ middle :: above
  ascending_front : Ascending front
  ascending_above : Ascending above
  precedes : ∀ c ∈ front, Text.precedes c.key middle.key = true
  follows : ∀ c ∈ above, Text.precedes middle.key c.key = true

theorem halved {middle : Tree} {above : List Tree} (h : Ascending cs)
    (hdrop : cs.drop (cs.length / 2) = middle :: above) :
    Halved cs (cs.take (cs.length / 2)) middle above := by
  have hcs := List.take_append_drop (cs.length / 2) cs
  rw [hdrop] at hcs
  rw [← hcs, Ascending, List.pairwise_append, List.pairwise_cons] at h
  obtain ⟨hfront, ⟨hfollows, habove⟩, hlt⟩ := h
  exact ⟨hcs.symm, hfront, habove, fun c hc => hlt c hc middle List.mem_cons_self, hfollows⟩

theorem Halved.follows_of_precedes {front above : List Tree} {middle : Tree}
    (h : Halved cs front middle above) (hlt : Text.precedes key middle.key = true) :
    ∀ c ∈ middle :: above, Text.precedes key c.key = true := by
  intro c hc
  rcases List.mem_cons.mp hc with rfl | hc
  · exact hlt
  · exact Text.precedes_trans hlt (h.follows c hc)

theorem Halved.precedes_of_follows {front above : List Tree} {middle : Tree}
    (h : Halved cs front middle above) (hlt : Text.precedes middle.key key = true) :
    ∀ c ∈ front, Text.precedes c.key key = true := by
  intro c hc
  exact Text.precedes_trans (h.precedes c hc) hlt

theorem search_eq_find? (h : Ascending cs) : search key cs = cs.find? (·.key = key) := by
  fun_induction search key cs with
  | case1 cs hdrop =>
    have hlen := congrArg List.length hdrop
    simp only [List.length_drop, List.length_nil] at hlen
    have hnil : cs = [] := List.eq_nil_of_length_eq_zero (by omega)
    rw [hnil, List.find?_nil]
  | case2 cs middle above hdrop heq =>
    have hhalved := halved h hdrop
    rw [hhalved.eq_append, List.find?_append,
      find?_eq_none_of_follows fun c hc => heq ▸ hhalved.precedes c hc]
    simp [heq]
  | case3 cs middle above hdrop hne hlt ih =>
    have hhalved := halved h hdrop
    rw [ih hhalved.ascending_front]
    conv_rhs => rw [hhalved.eq_append]
    rw [List.find?_append, find?_eq_none_of_precedes (hhalved.follows_of_precedes hlt),
      Option.or_none]
  | case4 cs middle above hdrop hne hge ih =>
    have hhalved := halved h hdrop
    have hlt := Text.precedes_of_ne (Ne.symm hne) (by simpa using hge)
    rw [ih hhalved.ascending_above]
    conv_rhs => rw [hhalved.eq_append]
    rw [List.find?_append, find?_eq_none_of_follows (hhalved.precedes_of_follows hlt),
      Option.none_or, List.find?_cons_of_neg]
    simpa using Ne.symm hne

theorem find?_eq_some_iff (h : Ascending cs) {c : Tree} :
    cs.find? (·.key = key) = some c ↔ c ∈ cs ∧ c.key = key := by
  constructor
  · intro hc
    exact ⟨List.mem_of_find?_eq_some hc, by simpa using List.find?_some hc⟩
  · rintro ⟨hc, rfl⟩
    obtain ⟨front, rest, rfl⟩ := List.append_of_mem hc
    obtain ⟨_, _, hlt⟩ := List.pairwise_append.mp h
    rw [List.find?_append,
      find?_eq_none_of_follows fun d hd => hlt d hd c List.mem_cons_self]
    simp

variable {f : Tree → Tree}

theorem mem_alterChild {c : Tree} (hc : c ∈ alterChild key f cs) :
    c ∈ cs ∨ ∃ d, d.key = key ∧ (d = leaf key ∨ d ∈ cs) ∧ c = f d := by
  induction cs with
  | nil => exact Or.inr ⟨leaf key, rfl, Or.inl rfl, by simpa [alterChild] using hc⟩
  | cons d cs ih =>
    rw [alterChild] at hc
    split_ifs at hc with hlt heq
    · rcases List.mem_cons.mp hc with rfl | hc
      · exact Or.inr ⟨leaf key, rfl, Or.inl rfl, rfl⟩
      · exact Or.inl hc
    · rcases List.mem_cons.mp hc with rfl | hc
      · exact Or.inr ⟨d, heq.symm, Or.inr List.mem_cons_self, rfl⟩
      · exact Or.inl (List.mem_cons_of_mem _ hc)
    · rcases List.mem_cons.mp hc with rfl | hc
      · exact Or.inl List.mem_cons_self
      · rcases ih hc with hc | ⟨e, hkey, he, rfl⟩
        · exact Or.inl (List.mem_cons_of_mem _ hc)
        · exact Or.inr ⟨e, hkey, he.imp_right (List.mem_cons_of_mem _), rfl⟩

theorem ascending_alterChild (hf : ∀ t, (f t).key = t.key) (h : Ascending cs) :
    Ascending (alterChild key f cs) := by
  induction cs with
  | nil => exact List.pairwise_singleton _ _
  | cons d cs ih =>
    obtain ⟨hd, hcs⟩ := List.pairwise_cons.mp h
    rw [alterChild]
    split_ifs with hlt heq
    · refine List.pairwise_cons.mpr ⟨fun c hc => ?_, h⟩
      rw [hf]
      rcases List.mem_cons.mp hc with rfl | hc
      · exact hlt
      · exact Text.precedes_trans hlt (hd c hc)
    · refine List.pairwise_cons.mpr ⟨fun c hc => ?_, hcs⟩
      rw [hf]
      exact hd c hc
    · refine List.pairwise_cons.mpr ⟨fun c hc => ?_, ih hcs⟩
      rcases mem_alterChild hc with hc | ⟨e, hkey, _, rfl⟩
      · exact hd c hc
      · rw [hf, hkey]
        exact Text.precedes_of_ne (Ne.symm heq) (by simpa using hlt)

theorem find?_alterChild (hf : ∀ t, (f t).key = t.key) (h : Ascending cs) :
    (alterChild key f cs).find? (·.key = k) =
      if k = key then some (f ((cs.find? (·.key = key)).getD (leaf key)))
      else cs.find? (·.key = k) := by
  induction cs with
  | nil =>
    have hleaf : (f (leaf key)).key = key := hf (leaf key)
    by_cases hk : k = key
    · simp [alterChild, hleaf, hk]
    · simp [alterChild, hleaf, hk, Ne.symm hk]
  | cons d cs ih =>
    obtain ⟨hd, hcs⟩ := List.pairwise_cons.mp h
    rw [alterChild]
    split_ifs with hlt hk heq hk hk
    · have hnone : (d :: cs).find? (·.key = key) = none := by
        apply find?_eq_none_of_precedes
        intro c hc
        rcases List.mem_cons.mp hc with rfl | hc
        · exact hlt
        · exact Text.precedes_trans hlt (hd c hc)
      have hleaf : (f (leaf key)).key = key := hf (leaf key)
      rw [hnone, hk]
      simp [hleaf]
    · have hleaf : (f (leaf key)).key = key := hf (leaf key)
      rw [List.find?_cons_of_neg]
      simpa [hleaf] using Ne.symm hk
    · simp [hf, hk, heq]
    · have hne : d.key ≠ k := fun he => hk (by rw [← he, heq])
      rw [List.find?_cons_of_neg (by simpa [hf] using hne),
        List.find?_cons_of_neg (by simpa using hne)]
    · have hne : d.key ≠ key := Ne.symm heq
      have hrest := ih hcs
      rw [if_pos hk] at hrest
      rw [List.find?_cons_of_neg (by simpa [hk] using hne), hrest,
        List.find?_cons_of_neg (by simpa using hne)]
    · have hrest := ih hcs
      rw [if_neg hk] at hrest
      rw [List.find?_cons, List.find?_cons, hrest]

end Children

theorem Ordered.child?_eq_some_iff {t c : Tree} {key : Text} (h : Ordered t) :
    t.child? key = some c ↔ c ∈ t.children ∧ c.key = key := by
  rw [child?, search_eq_find? h.ascending, find?_eq_some_iff h.ascending]

theorem Ordered.descend?_eq_some_iff {t n : Tree} {path : List Text} (h : Ordered t) :
    t.descend? path = some n ↔ Reaches t path n := by
  induction path generalizing t with
  | nil =>
    constructor
    · intro hn
      obtain rfl := Option.some.inj hn
      exact .here t
    · rintro ⟨⟩
      rfl
  | cons key path ih =>
    rw [descend?, Option.bind_eq_some_iff]
    constructor
    · rintro ⟨c, hc, hn⟩
      obtain ⟨hmem, rfl⟩ := h.child?_eq_some_iff.mp hc
      exact .down hmem ((ih (h.child hmem)).mp hn)
    · rintro ⟨⟩
      next c hmem hn => exact ⟨c, h.child?_eq_some_iff.mpr ⟨hmem, rfl⟩, (ih (h.child hmem)).mpr hn⟩

theorem descend?_append (t : Tree) (p q : List Text) :
    t.descend? (p ++ q) = (t.descend? p).bind (descend? q) := by
  induction p generalizing t with
  | nil => rfl
  | cons key p ih =>
    simp only [List.cons_append, descend?, Option.bind_assoc]
    congr 1
    funext c
    exact ih c

/-- What stands at a path: nothing if there is no node, and else the node's entry or its lack of
one. -/
def view (t : Tree) (path : List Text) : Option (Option TreeEntry) := (t.descend? path).map entry

@[simp] theorem view_nil (t : Tree) : t.view [] = some t.entry := rfl

theorem view_cons (t : Tree) (key : Text) (path : List Text) :
    t.view (key :: path) = (t.child? key).bind fun c => c.view path := by
  rw [view, descend?, Option.map_bind]
  rfl

theorem view_leaf_cons (k key : Text) (path : List Text) :
    (leaf k).view (key :: path) = none := by
  have hnone : (leaf k).child? key = none := search_eq_find? (ordered_leaf k).ascending
  rw [view_cons, hnone, Option.bind_none]

section Alter

variable {f : Tree → Tree} (hkey : ∀ t, (f t).key = t.key)

include hkey in
theorem key_alter (path : List Text) (t : Tree) : (alter f path t).key = t.key := by
  cases path with
  | nil => exact hkey t
  | cons key path =>
    cases t
    rfl

include hkey in
theorem Ordered.alter (hord : ∀ t, Ordered t → Ordered (f t)) (path : List Text) {t : Tree}
    (h : Ordered t) : Ordered (alter f path t) := by
  induction path generalizing t with
  | nil => exact hord t h
  | cons key path ih =>
    cases h with
    | node h hcs =>
      refine .node (ascending_alterChild (key_alter hkey path) h) fun c hc => ?_
      rcases mem_alterChild hc with hc | ⟨d, _, rfl | hd, rfl⟩
      · exact hcs c hc
      · exact ih (ordered_leaf key)
      · exact ih (hcs d hd)

include hkey in
theorem Ordered.child?_alter (key : Text) (path : List Text) {t : Tree} (h : Ordered t) (k : Text) :
    (Tree.alter f (key :: path) t).child? k =
      if k = key then some (Tree.alter f path ((t.child? key).getD (leaf key)))
      else t.child? k := by
  obtain ⟨k₀, e, cs⟩ := t
  have hcs : Ascending cs := h.ascending
  have hfind (k' : Text) : (Tree.node k₀ e cs).child? k' = cs.find? (·.key = k') :=
    search_eq_find? hcs
  have hnew : (Tree.alter f (key :: path) (Tree.node k₀ e cs)).child? k =
      (alterChild key (Tree.alter f path) cs).find? (·.key = k) :=
    search_eq_find? (ascending_alterChild (key_alter hkey path) hcs)
  rw [hnew, find?_alterChild (key_alter hkey path) hcs, hfind, hfind]

theorem Ordered.getD_child? {t : Tree} (h : Ordered t) (key : Text) :
    Ordered ((t.child? key).getD (leaf key)) := by
  cases hc : t.child? key with
  | none => exact ordered_leaf key
  | some c => exact h.child (h.child?_eq_some_iff.mp hc).1

include hkey in
/-- A change at the end of a path makes the nodes on the way exist, and nothing else is changed by
it than the entry there. -/
theorem view_alter (hchildren : ∀ t, (f t).children = t.children)
    {g : Option TreeEntry → Option TreeEntry} (hentry : ∀ t, (f t).entry = g t.entry)
    (path : List Text) {t : Tree} (h : Ordered t) (q : List Text) :
    (alter f path t).view q =
      if q = path then some (g ((t.view q).getD none))
      else if q <+: path then some ((t.view q).getD none)
      else t.view q := by
  induction path generalizing t q with
  | nil =>
    cases q with
    | nil => simp [alter, hentry]
    | cons k q => simp [alter, view_cons, child?, hchildren]
  | cons key path ih =>
    cases q with
    | nil =>
      cases t
      simp [alter, entry]
    | cons k q =>
      rw [view_cons, h.child?_alter hkey, view_cons]
      by_cases hk : k = key
      · subst hk
        simp only [↓reduceIte, Option.bind_some, List.cons.injEq, true_and, List.cons_prefix_cons]
        rw [ih (h.getD_child? k)]
        cases t.child? k with
        | some c => rfl
        | none =>
          -- The child is added without an entry, so its view is that of the missing one.
          cases q with
          | nil => simp [leaf, entry]
          | cons k' q =>
            rw [Option.getD_none, view_leaf_cons]
            rfl
      · simp [hk]

end Alter

end StyleGuide.Tree
