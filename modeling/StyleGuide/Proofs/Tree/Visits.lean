import StyleGuide.Proofs.Tree.Nodes

namespace StyleGuide.Tree

/-- Where a key stands among trees in ascending order, or else where it has to be put. The middle
is looked at first. -/
def locate (key : Text) (ts : List Tree) : Nat × Bool :=
  match _h : ts.drop (ts.length / 2) with
  | [] => (0, false)
  | middle :: above =>
    if key = middle.key then (ts.length / 2, true)
    else if Text.precedes key middle.key then locate key (ts.take (ts.length / 2))
    else
      let (i, found) := locate key above
      (ts.length / 2 + 1 + i, found)
termination_by ts.length
decreasing_by
  · have := congrArg List.length _h
    simp only [List.length_drop, List.length_cons] at this
    simp only [List.length_take]
    omega
  · have := congrArg List.length _h
    simp only [List.length_drop, List.length_cons] at this
    omega

/-- Changes the child with the key where it is located, or puts it there. -/
def alterLocated (key : Text) (f : Tree → Tree) (ts : List Tree) : List Tree :=
  match locate key ts with
  | (i, true) => ts.modify i f
  | (i, false) => ts.insertIdx i (f (leaf key))

/-- Changes the node at the end of the path, with each child on the way found by halving. -/
def alterByHalving (f : Tree → Tree) : (path : List Text) → Tree → Tree
  | [], t => f t
  | key :: path, node k e cs => node k e (alterLocated key (alterByHalving f path) cs)

/-- A place splits the trees at the key. -/
inductive Splits (key : Text) (ts : List Tree) : Nat × Bool → Prop
  | found {front rest : List Tree} {c : Tree} (h : ts = front ++ c :: rest)
      (hfront : ∀ d ∈ front, Text.precedes d.key key = true) (hc : c.key = key) :
      Splits key ts (front.length, true)
  | missing {front rest : List Tree} (h : ts = front ++ rest)
      (hfront : ∀ d ∈ front, Text.precedes d.key key = true)
      (hrest : ∀ d ∈ rest, Text.precedes key d.key = true) : Splits key ts (front.length, false)

section Halving

variable {key : Text} {ts front rest : List Tree} {place : Nat × Bool}

theorem Splits.append_right (h : Splits key front place)
    (hrest : ∀ d ∈ rest, Text.precedes key d.key = true) : Splits key (front ++ rest) place := by
  cases h with
  | found h hfront hc =>
    subst h
    exact .found (by rw [List.append_assoc, List.cons_append]) hfront hc
  | missing h hfront hmore =>
    subst h
    exact .missing (List.append_assoc _ _ _) hfront (List.forall_mem_append.mpr ⟨hmore, hrest⟩)

theorem Splits.append_left (h : Splits key rest place)
    (hfront : ∀ d ∈ front, Text.precedes d.key key = true) :
    Splits key (front ++ rest) (front.length + place.1, place.2) := by
  cases h with
  | @found more _ c h hmore hc =>
    subst h
    rw [← List.length_append]
    exact .found (List.append_assoc _ _ _).symm (List.forall_mem_append.mpr ⟨hfront, hmore⟩) hc
  | @missing more _ h hmore hrest =>
    subst h
    rw [← List.length_append]
    exact .missing (List.append_assoc _ _ _).symm (List.forall_mem_append.mpr ⟨hfront, hmore⟩)
      hrest

theorem splits_locate (h : Ascending ts) : Splits key ts (locate key ts) := by
  fun_induction locate key ts with
  | case1 ts hdrop =>
    have hlen := congrArg List.length hdrop
    simp only [List.length_drop, List.length_nil] at hlen
    obtain rfl : ts = [] := List.eq_nil_of_length_eq_zero (by omega)
    exact .missing (List.append_nil []).symm (by simp) (by simp)
  | case2 ts middle above hdrop heq =>
    have hhalved := halved h hdrop
    have hlen : (ts.take (ts.length / 2)).length = ts.length / 2 := by
      rw [List.length_take]
      omega
    rw [← hlen]
    exact .found hhalved.eq_append (fun d hd => heq ▸ hhalved.precedes d hd) heq.symm
  | case3 ts middle above hdrop hne hlt ih =>
    have hhalved := halved h hdrop
    have hsplit := (ih hhalved.ascending_front).append_right (hhalved.follows_of_precedes hlt)
    rwa [← hhalved.eq_append] at hsplit
  | case4 ts middle above hdrop hne hge i found hloc ih =>
    have hhalved := halved h hdrop
    have hlt := Text.precedes_of_ne (Ne.symm hne) (by simpa using hge)
    have hfront : ∀ d ∈ ts.take (ts.length / 2) ++ [middle], Text.precedes d.key key = true :=
      List.forall_mem_append.mpr
        ⟨hhalved.precedes_of_follows hlt, List.forall_mem_singleton.mpr hlt⟩
    have hlen : (ts.take (ts.length / 2) ++ [middle]).length = ts.length / 2 + 1 := by
      rw [List.length_append, List.length_take, List.length_singleton]
      omega
    have hsplit := (ih hhalved.ascending_above).append_left hfront
    rw [List.append_assoc, List.singleton_append, ← hhalved.eq_append, hlen, hloc] at hsplit
    exact hsplit

variable {f g : Tree → Tree}

theorem alterChild_append (hfront : ∀ d ∈ front, Text.precedes d.key key = true) :
    alterChild key f (front ++ rest) = front ++ alterChild key f rest := by
  induction front with
  | nil => rfl
  | cons d front ih =>
    have hd := hfront d List.mem_cons_self
    rw [List.cons_append, alterChild, if_neg (by simp [Text.precedes_asymm hd]),
      if_neg (Text.ne_of_precedes hd).symm, ih fun c hc => hfront c (List.mem_cons_of_mem _ hc)]
    rfl

theorem alterChild_of_precedes (hrest : ∀ d ∈ rest, Text.precedes key d.key = true) :
    alterChild key f rest = f (leaf key) :: rest := by
  cases rest with
  | nil => rfl
  | cons d rest => rw [alterChild, if_pos (hrest d List.mem_cons_self)]

theorem alterChild_cons_key (c : Tree) : alterChild c.key f (c :: rest) = f c :: rest := by
  rw [alterChild, if_neg (by simp [Text.precedes_irrefl]), if_pos rfl]

theorem insertIdx_append (c : Tree) :
    (front ++ rest).insertIdx front.length c = front ++ c :: rest := by
  induction front with
  | nil => rfl
  | cons d front ih => simp [ih]

theorem alterChild_eq_alterLocated (h : Ascending ts) (hleaf : f (leaf key) = g (leaf key))
    (hts : ∀ c ∈ ts, f c = g c) : alterChild key f ts = alterLocated key g ts := by
  have hsplit : Splits key ts (locate key ts) := splits_locate h
  rw [alterLocated]
  cases hplace : locate key ts with
  | mk i found =>
    rw [hplace] at hsplit
    cases hsplit with
    | @found front rest c hcut hfront hc =>
      subst hcut hc
      rw [alterChild_append hfront, alterChild_cons_key, hts c (by simp)]
      simp [List.modify_eq_take_drop]
    | @missing front rest hcut hfront hrest =>
      subst hcut
      rw [alterChild_append hfront, alterChild_of_precedes hrest, hleaf]
      exact (insertIdx_append _).symm

theorem Ordered.alter_eq_alterByHalving (path : List Text) {t : Tree} (h : Ordered t) :
    t.alter f path = t.alterByHalving f path := by
  induction path generalizing t with
  | nil => rfl
  | cons key path ih =>
    cases h with
    | node h hcs =>
      -- The two ways agree on ordered trees only, so `ih` is for the children and for a new leaf.
      rw [Tree.alter, alterByHalving,
        alterChild_eq_alterLocated h (ih (ordered_leaf key)) fun c hc => ih (hcs c hc)]

end Halving

/-- A visit goes to the node at a path, and may replace the entry there or take it away. -/
structure Visit where
  path : List Text
  entry : Option (Option TreeEntry)

def Visit.change (v : Visit) : Tree → Tree :=
  match v.entry with
  | none => id
  | some e => setEntry e

def visit (t : Tree) (v : Visit) : Tree := t.alter v.change v.path

def visitAll (t : Tree) (vs : List Visit) : Tree := vs.foldl visit t

/-- The node that a visit comes to: the one at the path, or a new one if there is none. -/
def target (t : Tree) (path : List Text) : Tree :=
  (t.descend? path).getD (leaf (path.getLastD []))

def Holds (t : Tree) (path : List Text) (e : TreeEntry) : Prop :=
  ∃ n, Reaches t path n ∧ n.entry = some e

section Visit

variable {t : Tree} (h : Ordered t)

theorem Visit.change_eq (v : Visit) (t : Tree) :
    v.change t = .node t.key (v.entry.getD t.entry) t.children := by
  obtain ⟨path, _ | e⟩ := v <;> cases t <;> rfl

theorem Visit.key_change (v : Visit) (t : Tree) : (v.change t).key = t.key := by
  rw [change_eq, Tree.key]

theorem Visit.children_change (v : Visit) (t : Tree) : (v.change t).children = t.children := by
  rw [change_eq, Tree.children]

theorem Visit.entry_change (v : Visit) (t : Tree) : (v.change t).entry = v.entry.getD t.entry := by
  rw [change_eq, Tree.entry]

include h in
theorem Ordered.visit (v : Visit) : Ordered (t.visit v) := by
  apply h.alter v.key_change
  intro n hn
  obtain ⟨path, _ | e⟩ := v
  · exact hn
  · exact ordered_setEntry hn

include h in
theorem Ordered.visitAll (vs : List Visit) : Ordered (t.visitAll vs) := by
  induction vs generalizing t with
  | nil => exact h
  | cons v vs ih => exact ih (h.visit v)

include h in
theorem Ordered.view_visit (v : Visit) (p : List Text) :
    (t.visit v).view p =
      if p = v.path then some (v.entry.getD ((t.view p).getD none))
      else if p <+: v.path then some ((t.view p).getD none)
      else t.view p :=
  view_alter v.key_change v.children_change v.entry_change v.path h p

include h in
theorem Ordered.exists_reaches_iff {p : List Text} :
    (∃ n, Reaches t p n) ↔ (t.view p).isSome = true := by
  simp only [← h.descend?_eq_some_iff, ← Option.isSome_iff_exists]
  rw [view, Option.isSome_map]

include h in
theorem Ordered.holds_iff {p : List Text} {e : TreeEntry} :
    Holds t p e ↔ t.view p = some (some e) := by
  rw [view, Option.map_eq_some_iff]
  simp only [Holds, h.descend?_eq_some_iff]

include h in
theorem Ordered.exists_reaches_visit (v : Visit) (p : List Text) :
    (∃ n, Reaches (t.visit v) p n) ↔ (∃ n, Reaches t p n) ∨ p <+: v.path := by
  rw [(h.visit v).exists_reaches_iff, h.exists_reaches_iff, h.view_visit]
  split_ifs with hp hpre
  · simp [hp]
  · simp [hpre]
  · simp [hpre]

include h in
theorem Ordered.holds_visit (v : Visit) (p : List Text) (e : TreeEntry) :
    Holds (t.visit v) p e ↔
      if p = v.path then v.entry.getD ((t.view p).getD none) = some e else Holds t p e := by
  rw [(h.visit v).holds_iff, h.holds_iff, h.view_visit]
  split_ifs with hp hpre
  · rw [Option.some.injEq]
  · cases t.view p <;> simp
  · rfl

theorem target_cons (t : Tree) (key : Text) (path : List Text) :
    t.target (key :: path) = ((t.child? key).getD (leaf key)).target path := by
  rw [target, descend?]
  cases t.child? key with
  | none =>
    cases path with
    | nil => rfl
    | cons k path =>
      have hview := view_leaf_cons key k path
      rw [view, Option.map_eq_none_iff] at hview
      rw [Option.getD_none, target, hview]
      rfl
  | some c =>
    cases path with
    | nil => rfl
    | cons k path => rfl

theorem Ordered.descend?_alter {f : Tree → Tree} (hkey : ∀ t, (f t).key = t.key)
    (path : List Text) {t : Tree} (h : Ordered t) :
    (t.alter f path).descend? path = some (f (t.target path)) := by
  induction path generalizing t with
  | nil => rfl
  | cons key path ih =>
    rw [descend?, h.child?_alter hkey, if_pos rfl, Option.bind_some, ih (h.getD_child? key),
      target_cons]

include h in
theorem Ordered.reaches_visit (v : Visit) :
    Reaches (t.visit v) v.path (v.change (t.target v.path)) :=
  (h.visit v).descend?_eq_some_iff.mp (h.descend?_alter v.key_change v.path)

include h in
theorem Ordered.child?_eq_none_iff {key : Text} :
    t.child? key = none ↔ ∀ c ∈ t.children, c.key ≠ key := by
  rw [Option.eq_none_iff_forall_ne_some]
  constructor
  · intro hnone c hc hkey
    exact hnone c (h.child?_eq_some_iff.mpr ⟨hc, hkey⟩)
  · intro hnone c hc
    obtain ⟨hmem, hkey⟩ := h.child?_eq_some_iff.mp hc
    exact hnone c hmem hkey

include h in
theorem Ordered.descend?_eq_none_iff {path : List Text} :
    t.descend? path = none ↔ ∃ front key rest n, path = front ++ key :: rest ∧
      Reaches t front n ∧ ∀ c ∈ n.children, c.key ≠ key := by
  induction path generalizing t with
  | nil => simp [descend?]
  | cons key path ih =>
    rw [descend?]
    constructor
    · intro hnone
      cases hc : t.child? key with
      | none => exact ⟨[], key, path, t, rfl, .here t, h.child?_eq_none_iff.mp hc⟩
      | some c =>
        obtain ⟨hmem, rfl⟩ := h.child?_eq_some_iff.mp hc
        rw [hc, Option.bind_some, ih (h.child hmem)] at hnone
        obtain ⟨front, k, rest, n, rfl, hn, hk⟩ := hnone
        exact ⟨c.key :: front, k, rest, n, rfl, .down hmem hn, hk⟩
    · rintro ⟨front, k, rest, n, hpath, hn, hk⟩
      cases hn with
      | here =>
        obtain ⟨rfl, rfl⟩ := List.cons.inj hpath
        rw [h.child?_eq_none_iff.mpr hk, Option.bind_none]
      | @down _ c _ front hmem hn =>
        obtain ⟨rfl, rfl⟩ := List.cons.inj hpath
        rw [h.child?_eq_some_iff.mpr ⟨hmem, rfl⟩, Option.bind_some, ih (h.child hmem)]
        exact ⟨front, k, rest, n, rfl, hn, hk⟩

end Visit

/-- What holds of a tree for one who goes to its nodes and gives them entries. -/
structure Serves (t : Tree) : Prop where
  ascending : ∀ p n, Reaches t p n →
    n.children.Pairwise fun a b => Text.precedes a.key b.key = true
  unique : ∀ p m n, Reaches t p m → Reaches t p n → m = n
  exists_visited : ∀ v p,
    (∃ n, Reaches (t.visit v) p n) ↔ (∃ n, Reaches t p n) ∨ p <+: v.path
  returned : ∀ v, Reaches (t.visit v) v.path (v.change (t.target v.path))
  halved : ∀ v, t.visit v = t.alterByHalving v.change v.path
  kept : ∀ q p e, Holds (t.visit ⟨q, none⟩) p e ↔ Holds t p e
  replaced : ∀ q new p e,
    Holds (t.visit ⟨q, some new⟩) p e ↔ if p = q then new = some e else Holds t p e
  child : ∀ p n, Reaches t p n → ∀ key, n.child? key = n.children.find? (·.key = key)
  found : ∀ p n, Reaches t p n → ∀ s m, n.find? s = some m ↔ Reaches n (segments s) m
  missing : ∀ p n, Reaches t p n → ∀ s, n.find? s = none ↔
    ∃ front key rest m, segments s = front ++ key :: rest ∧ Reaches n front m ∧
      ∀ c ∈ m.children, c.key ≠ key
  answered : ∀ path e, t.step (.insert path e) =
    (t.visit ⟨path, e.map some⟩,
      .node (some ((⟨path, e.map some⟩ : Visit).change (t.target path))))

theorem Ordered.serves {t : Tree} (h : Ordered t) : Serves t where
  ascending p n hn := (h.reaches hn).ascending
  unique p m n hm hn := by
    rw [← h.descend?_eq_some_iff] at hm hn
    exact Option.some.inj (hm.symm.trans hn)
  exists_visited := h.exists_reaches_visit
  returned := h.reaches_visit
  halved v := h.alter_eq_alterByHalving v.path
  kept q p e := by
    rw [h.holds_visit, h.holds_iff]
    split_ifs
    · cases t.view p <;> simp
    · rfl
  replaced q new p e := h.holds_visit ⟨q, some new⟩ p e
  child p n hn key := search_eq_find? (h.reaches hn).ascending
  found p n hn s m := (h.reaches hn).descend?_eq_some_iff
  missing p n hn s := (h.reaches hn).descend?_eq_none_iff
  answered path e := by
    have hstep : t.step (.insert path e) = (t.visit ⟨path, e.map some⟩,
        .node ((t.visit ⟨path, e.map some⟩).descend? path)) := by cases e <;> rfl
    rw [hstep, Tree.visit, h.descend?_alter (Visit.key_change _) path]

/-- The visit that a step pays, if it pays one. -/
def Step.visit? : Step → Option Visit
  | .insert path e => some ⟨path, e.map some⟩
  | _ => none

theorem step_fst (t : Tree) (s : Step) : (t.step s).1 = t.visitAll s.visit?.toList := by
  cases s with
  | insert path e => cases e <;> rfl
  | find path => rfl
  | child key => rfl
  | dump => rfl

theorem run_fst (t : Tree) (steps : List Step) :
    (t.run steps).1 = t.visitAll (steps.filterMap Step.visit?) := by
  induction steps generalizing t with
  | nil => rfl
  | cons s steps ih =>
    have hstep : (t.run (s :: steps)).1 = ((t.step s).1.run steps).1 := rfl
    rw [hstep, ih, step_fst, List.filterMap_cons]
    cases s.visit? <;> rfl

/-- A tree serves after any visits from an empty root, and a run of steps is one of visits. -/
theorem serves_visitAll (visits : List Visit) :
    Serves ((leaf []).visitAll visits) ∧
      ∀ steps, ((leaf []).run steps).1 = (leaf []).visitAll (steps.filterMap Step.visit?) :=
  ⟨((ordered_leaf []).visitAll visits).serves, run_fst (leaf [])⟩

end StyleGuide.Tree
