import StyleGuide.Disk.Node
import StyleGuide.Proofs.Path

namespace StyleGuide

/-- What stands at a place, without what is below it. -/
inductive Kind where
  | file (bytes : ByteArray)
  | link (target : Path)
  | dir

namespace Node

def kind : Node → Kind
  | file bytes => .file bytes
  | link target => .link target
  | dir _ => .dir

def kindAt (n : Node) (place : List Bytes) : Option Kind := (n.get? place).map kind

@[elab_as_elim]
theorem induction {motive : Node → Prop} (file : ∀ bytes, motive (file bytes))
    (link : ∀ target, motive (link target))
    (dir : ∀ entries, (∀ e ∈ entries, motive e.2) → motive (dir entries)) (n : Node) :
    motive n := by
  match n with
  | .file bytes => exact file bytes
  | .link target => exact link target
  | .dir entries =>
    apply dir
    intro e he
    exact induction file link dir e.2
termination_by n
decreasing_by
  have hmem := List.sizeOf_lt_of_mem he
  have hsnd : sizeOf e = 1 + sizeOf e.1 + sizeOf e.2 := by cases e; rfl
  simp only [Node.dir.sizeOf_spec]
  omega

theorem kind_eq_dir_iff {n : Node} : n.kind = .dir ↔ ∃ entries, n = .dir entries := by
  cases n <;> simp [kind]

@[simp] theorem get?_nil (n : Node) : n.get? [] = some n := by cases n <;> rfl

theorem get?_dir_cons (entries : List (Bytes × Node)) (name : Bytes) (place : List Bytes) :
    (dir entries).get? (name :: place) = (entries.lookup name).bind (get? place) := rfl

theorem get?_append (n : Node) (p q : List Bytes) : n.get? (p ++ q) = (n.get? p).bind (get? q) := by
  induction p generalizing n with
  | nil => simp
  | cons name p ih =>
    cases n with
    | file | link => rfl
    | dir entries =>
      rw [List.cons_append, get?_dir_cons, get?_dir_cons]
      cases entries.lookup name with
      | none => rfl
      | some m => exact ih m

theorem kindAt_eq_dir_iff {n : Node} {place : List Bytes} :
    n.kindAt place = some .dir ↔ ∃ entries, n.get? place = some (.dir entries) := by
  rw [kindAt, Option.map_eq_some_iff]
  simp only [kind_eq_dir_iff]
  constructor
  · rintro ⟨_, h, entries, rfl⟩
    exact ⟨entries, h⟩
  · rintro ⟨entries, h⟩
    exact ⟨_, h, entries, rfl⟩

theorem kindAt_eq_file_iff {n : Node} {place : List Bytes} {bytes : ByteArray} :
    n.kindAt place = some (.file bytes) ↔ n.get? place = some (.file bytes) := by
  rw [kindAt]
  cases n.get? place with
  | none => simp
  | some m => cases m <;> simp [kind]

theorem kindAt_append {n m : Node} {p : List Bytes} (h : n.get? p = some m) (q : List Bytes) :
    n.kindAt (p ++ q) = m.kindAt q := by
  rw [kindAt, get?_append, h, Option.bind_some, kindAt]

theorem kindAt_of_append {n : Node} {p q : List Bytes} (hq : q ≠ [])
    (h : n.kindAt (p ++ q) ≠ none) : n.kindAt p = some .dir := by
  obtain ⟨name, q, rfl⟩ := List.exists_cons_of_ne_nil hq
  cases hp : n.get? p with
  | none => simp [kindAt, get?_append, hp] at h
  | some m =>
    cases m with
    | dir entries => exact kindAt_eq_dir_iff.mpr ⟨entries, hp⟩
    | file | link => exact absurd (by rw [kindAt_append hp]; rfl) h

theorem dirAt_of_append {n : Node} {p q : List Bytes} (h : n.kindAt (p ++ q) = some .dir) :
    n.kindAt p = some .dir := by
  by_cases hq : q = []
  · rwa [hq, List.append_nil] at h
  · exact kindAt_of_append hq (by simp [h])

theorem lookup_alterEntry_self (name : Bytes) (f : Option Node → Node)
    (entries : List (Bytes × Node)) :
    (alterEntry name f entries).lookup name = some (f (entries.lookup name)) := by
  induction entries with
  | nil => simp [alterEntry]
  | cons e entries ih =>
    obtain ⟨key, m⟩ := e
    by_cases hkey : key = name
    · simp [alterEntry, hkey]
    · rw [alterEntry, if_neg hkey]
      simpa [List.lookup_cons, beq_eq_false_iff_ne.mpr (Ne.symm hkey)] using ih

theorem lookup_alterEntry_of_ne {name other : Bytes} (h : other ≠ name) (f : Option Node → Node)
    (entries : List (Bytes × Node)) :
    (alterEntry name f entries).lookup other = entries.lookup other := by
  induction entries with
  | nil => simp [alterEntry, List.lookup_cons, beq_eq_false_iff_ne.mpr h]
  | cons e entries ih =>
    obtain ⟨key, m⟩ := e
    by_cases hkey : key = name
    · simp [alterEntry, hkey, List.lookup_cons, beq_eq_false_iff_ne.mpr h]
    · rw [alterEntry, if_neg hkey, List.lookup_cons, List.lookup_cons, ih]

theorem kindAt_dir_cons (entries : List (Bytes × Node)) (name : Bytes) (place : List Bytes) :
    (dir entries).kindAt (name :: place) = (entries.lookup name).bind (kindAt · place) := by
  rw [kindAt, get?_dir_cons]
  cases entries.lookup name <;> rfl

theorem kindAt_put_cons (entries : List (Bytes × Node)) (name m : Bytes) (place q : List Bytes)
    (new : Node) :
    ((dir entries).put (name :: place) new).kindAt (m :: q) =
      if m = name then (((entries.lookup name).getD (dir [])).put place new).kindAt q
      else (dir entries).kindAt (m :: q) := by
  rw [put, kindAt_dir_cons]
  by_cases hm : m = name
  · rw [if_pos hm, hm, lookup_alterEntry_self, Option.bind_some]
  · rw [if_neg hm, lookup_alterEntry_of_ne hm, kindAt_dir_cons]

/-- What is put into a directory is there, and elsewhere nothing changes, if neither what was there
nor what comes has anything below it. -/
theorem kindAt_put {n new : Node} {parent : List Bytes} {name : Bytes}
    (hparent : n.kindAt parent = some .dir) (hold : n.kindAt (parent ++ [name]) ≠ some .dir)
    (hnew : ∀ q, q ≠ [] → new.kindAt q = none) (q : List Bytes) :
    (n.put (parent ++ [name]) new).kindAt q =
      if q = parent ++ [name] then some new.kind else n.kindAt q := by
  induction parent generalizing n q with
  | nil =>
    obtain ⟨entries, hn⟩ := kindAt_eq_dir_iff.mp hparent
    obtain rfl : n = .dir entries := by simpa using hn
    match q with
    | [] => rfl
    | m :: q =>
      rw [List.nil_append, kindAt_put_cons, put]
      by_cases hm : m = name
      · subst hm
        by_cases hq : q = []
        · simp [hq, kindAt]
        · have hnone : (dir entries).kindAt ([m] ++ q) = none := by
            by_contra hsome
            exact hold (kindAt_of_append hq hsome)
          simpa [hq, hnew q hq] using hnone.symm
      · simp [hm]
  | cons step parent ih =>
    obtain ⟨entries, hn⟩ := kindAt_eq_dir_iff.mp (dirAt_of_append (p := []) hparent)
    obtain rfl : n = .dir entries := by simpa using hn
    rw [kindAt_dir_cons, Option.bind_eq_some_iff] at hparent
    obtain ⟨m, hm, hparent⟩ := hparent
    rw [List.cons_append, kindAt_dir_cons, hm, Option.bind_some] at hold
    match q with
    | [] => rfl
    | other :: q =>
      rw [List.cons_append, kindAt_put_cons]
      by_cases hother : other = step
      · subst hother
        rw [if_pos rfl, hm, Option.getD_some, ih hparent hold, kindAt_dir_cons, hm,
          Option.bind_some]
        simp
      · simp [hother]

theorem mem_of_lookup {entries : List (Bytes × Node)} {name : Bytes} {m : Node}
    (h : entries.lookup name = some m) : (name, m) ∈ entries := by
  obtain ⟨before, after, rfl, _⟩ := List.lookup_eq_some_iff.mp h
  simp

theorem lookup_of_mem {entries : List (Bytes × Node)} (h : (entries.map Prod.fst).Nodup)
    {e : Bytes × Node} (he : e ∈ entries) : entries.lookup e.1 = some e.2 := by
  obtain ⟨before, after, rfl⟩ := List.append_of_mem he
  refine List.lookup_eq_some_iff.mpr ⟨before, after, rfl, fun p hp => ?_⟩
  rw [List.map_append, List.map_cons] at h
  have hne : p.1 ≠ e.1 :=
    (List.nodup_append.mp h).2.2 p.1 (List.mem_map_of_mem hp) e.1 List.mem_cons_self
  simpa using Ne.symm hne

/-- A node of a real disk: the entries of each directory have names, and no two the same. -/
inductive Proper : Node → Prop where
  | file (bytes : ByteArray) : Proper (.file bytes)
  | link (target : Path) : Proper (.link target)
  | dir {entries : List (Bytes × Node)} (distinct : (entries.map Prod.fst).Nodup)
    (names : ∀ e ∈ entries, Path.IsName e.1) (below : ∀ e ∈ entries, Proper e.2) :
    Proper (.dir entries)

theorem proper_dir_cons {e : Bytes × Node} {entries : List (Bytes × Node)} :
    (dir (e :: entries)).Proper ↔
      (e.1 ∉ entries.map Prod.fst ∧ Path.IsName e.1) ∧ e.2.Proper ∧ (dir entries).Proper := by
  constructor
  · rintro (_ | _ | ⟨distinct, names, below⟩)
    rw [List.map_cons, List.nodup_cons] at distinct
    rw [List.forall_mem_cons] at names below
    exact ⟨⟨distinct.1, names.1⟩, below.1, .dir distinct.2 names.2 below.2⟩
  · rintro ⟨⟨hnew, hname⟩, hnode, _ | _ | ⟨distinct, names, below⟩⟩
    exact .dir (List.nodup_cons.mpr ⟨hnew, distinct⟩) (List.forall_mem_cons.mpr ⟨hname, names⟩)
      (List.forall_mem_cons.mpr ⟨hnode, below⟩)

theorem proper_dir_nil : (dir []).Proper := .dir .nil (by simp) (by simp)

theorem Proper.get? {n m : Node} (hn : n.Proper) {place : List Bytes}
    (h : n.get? place = some m) : m.Proper := by
  induction place generalizing n with
  | nil =>
    obtain rfl : n = m := by simpa using h
    exact hn
  | cons name place ih =>
    cases hn with
    | file | link => simp [Node.get?] at h
    | dir _ _ below =>
      rw [get?_dir_cons, Option.bind_eq_some_iff] at h
      obtain ⟨x, hx, h⟩ := h
      exact ih (below _ (mem_of_lookup hx)) h

theorem Proper.isName_of_get? {n m : Node} (hn : n.Proper) {place : List Bytes}
    (h : n.get? place = some m) : ∀ name ∈ place, Path.IsName name := by
  induction place generalizing n with
  | nil => simp
  | cons name place ih =>
    cases hn with
    | file | link => simp [Node.get?] at h
    | dir _ names below =>
      rw [get?_dir_cons, Option.bind_eq_some_iff] at h
      obtain ⟨x, hx, h⟩ := h
      have he := mem_of_lookup hx
      exact List.forall_mem_cons.mpr ⟨names _ he, ih (below _ he) h⟩

end Node

end StyleGuide
