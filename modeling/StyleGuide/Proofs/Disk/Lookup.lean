import StyleGuide.Disk
import StyleGuide.Proofs.Disk.Nodes

namespace StyleGuide.Disk

structure IsStep (step : Bytes) : Prop where
  ne_here : step ≠ [Path.dot]
  ne_parent : step ≠ [Path.dot, Path.dot]
  short : step.length ≤ maxName

/-- Where steps lead that can all be taken. The disk is only asked what stands at a place. -/
inductive Arrives (root : Node) (last : Last) :
    (links : Nat) → (place path dest : List Bytes) → Prop where
  | done {links : Nat} {place : List Bytes} : Arrives root last links place [] place
  | here {links : Nat} {place rest dest : List Bytes} (isDir : root.kindAt place = some .dir)
    (further : Arrives root last links place rest dest) :
    Arrives root last links place ([Path.dot] :: rest) dest
  | up {links : Nat} {place rest dest : List Bytes} (isDir : root.kindAt place = some .dir)
    (further : Arrives root last links place.dropLast rest dest) :
    Arrives root last links place ([Path.dot, Path.dot] :: rest) dest
  | down {links : Nat} {place rest dest : List Bytes} {step : Bytes} {kind : Kind}
    (isDir : root.kindAt place = some .dir) (isStep : IsStep step)
    (there : root.kindAt (place ++ [step]) = some kind) (noLink : ∀ target, kind ≠ .link target)
    (further : Arrives root last links (place ++ [step]) rest dest) :
    Arrives root last links place (step :: rest) dest
  | fresh {links : Nat} {place : List Bytes} {step : Bytes} (isDir : root.kindAt place = some .dir)
    (isStep : IsStep step) (missing : root.kindAt (place ++ [step]) = none)
    (create : last = .create) :
    Arrives root last links place [step] (place ++ [step])
  | kept {links : Nat} {place : List Bytes} {step : Bytes} {target : Path}
    (isDir : root.kindAt place = some .dir) (isStep : IsStep step)
    (there : root.kindAt (place ++ [step]) = some (.link target)) (keep : last = .keep) :
    Arrives root last links place [step] (place ++ [step])
  | through {links : Nat} {place rest dest : List Bytes} {step : Bytes} {target : Path}
    (isDir : root.kindAt place = some .dir) (isStep : IsStep step)
    (there : root.kindAt (place ++ [step]) = some (.link target))
    (goOn : ¬ (rest = [] ∧ last = .keep))
    (further : Arrives root last links (if Path.isAbsolute target then [] else place)
      (steps target ++ rest) dest) :
    Arrives root last (links + 1) place (step :: rest) dest

variable {root : Node} {last : Last} {links : Nat} {place path dest : List Bytes}

theorem kindAt_entry {entries : List (Bytes × Node)} (h : root.get? place = some (.dir entries))
    (step : Bytes) : root.kindAt (place ++ [step]) = (entries.lookup step).map Node.kind := by
  rw [Node.kindAt_append h, Node.kindAt_dir_cons]
  cases entries.lookup step <;> simp [Node.kindAt]

theorem lookup_of_link {entries : List (Bytes × Node)} (h : root.get? place = some (.dir entries))
    {step : Bytes} {target : Path} (hlink : root.kindAt (place ++ [step]) = some (.link target)) :
    entries.lookup step = some (.link target) := by
  rw [kindAt_entry h, Option.map_eq_some_iff] at hlink
  obtain ⟨n, hn, hkind⟩ := hlink
  cases n with
  | link => rw [hn, Kind.link.inj hkind]
  | file | dir => cases hkind

theorem arrives_of_follow (h : follow root last links place path = .ok dest) :
    Arrives root last links place path dest := by
  fun_induction follow root last links place path with
  | case1 links place =>
    obtain rfl := Except.ok.inj h
    exact .done
  | case2 => cases h
  | case3 links place rest entries hdir ih =>
    exact .here (Node.kindAt_eq_dir_iff.mpr ⟨entries, hdir⟩) (ih h)
  | case4 links place rest entries hdir _ ih =>
    exact .up (Node.kindAt_eq_dir_iff.mpr ⟨entries, hdir⟩) (ih h)
  | case5 => cases h
  | case6 links place step rest entries hdir hhere hparent hshort hnone hcreate =>
    obtain rfl := Except.ok.inj h
    obtain rfl := List.isEmpty_iff.mp hcreate.1
    exact .fresh (Node.kindAt_eq_dir_iff.mpr ⟨entries, hdir⟩) ⟨hhere, hparent, by omega⟩
      (by rw [kindAt_entry hdir, hnone]; rfl) hcreate.2
  | case7 => cases h
  | case8 links place step rest entries hdir hhere hparent hshort target hlink hkeep =>
    obtain rfl := Except.ok.inj h
    obtain rfl := List.isEmpty_iff.mp hkeep.1
    exact .kept (Node.kindAt_eq_dir_iff.mpr ⟨entries, hdir⟩) ⟨hhere, hparent, by omega⟩
      (by rw [kindAt_entry hdir, hlink]; rfl) hkeep.2
  | case9 => cases h
  | case10 place step rest entries hdir hhere hparent hshort target hlink hkeep links ih =>
    refine .through (Node.kindAt_eq_dir_iff.mpr ⟨entries, hdir⟩) ⟨hhere, hparent, by omega⟩
      (by rw [kindAt_entry hdir, hlink]; rfl) ?_ ?_
    · simpa [List.isEmpty_iff] using hkeep
    · simpa using ih h
  | case11 links place step rest entries hdir hhere hparent hshort n hlink hn ih =>
    refine .down (Node.kindAt_eq_dir_iff.mpr ⟨entries, hdir⟩) ⟨hhere, hparent, by omega⟩
      (by rw [kindAt_entry hdir, hn]; rfl) ?_ (ih h)
    intro target hkind
    cases n with
    | link t => exact hlink t rfl
    | file | dir => cases hkind
  | case12 => cases h

theorem follow_of_arrives (h : Arrives root last links place path dest) :
    follow root last links place path = .ok dest := by
  induction h with
  | done => rw [follow]
  | here isDir _ ih =>
    obtain ⟨entries, hdir⟩ := Node.kindAt_eq_dir_iff.mp isDir
    rw [follow]
    simp [hdir, ih]
  | up isDir _ ih =>
    obtain ⟨entries, hdir⟩ := Node.kindAt_eq_dir_iff.mp isDir
    rw [follow]
    simp [hdir, ih]
  | down isDir isStep there noLink _ ih =>
    obtain ⟨entries, hdir⟩ := Node.kindAt_eq_dir_iff.mp isDir
    rw [kindAt_entry hdir, Option.map_eq_some_iff] at there
    obtain ⟨n, hn, rfl⟩ := there
    rw [follow]
    simp only [hdir, isStep.ne_here, isStep.ne_parent, Nat.not_lt.mpr isStep.short, if_false, hn]
    cases n with
    | link target => exact absurd rfl (noLink target)
    | file | dir => exact ih
  | fresh isDir isStep missing create =>
    obtain ⟨entries, hdir⟩ := Node.kindAt_eq_dir_iff.mp isDir
    rw [kindAt_entry hdir, Option.map_eq_none_iff] at missing
    rw [follow]
    simp [hdir, isStep.ne_here, isStep.ne_parent, Nat.not_lt.mpr isStep.short, missing, create]
  | kept isDir isStep there keep =>
    obtain ⟨entries, hdir⟩ := Node.kindAt_eq_dir_iff.mp isDir
    have hlink := lookup_of_link hdir there
    rw [follow]
    simp [hdir, isStep.ne_here, isStep.ne_parent, Nat.not_lt.mpr isStep.short, hlink, keep]
  | through isDir isStep there goOn _ ih =>
    obtain ⟨entries, hdir⟩ := Node.kindAt_eq_dir_iff.mp isDir
    have hlink := lookup_of_link hdir there
    rw [follow]
    simp only [hdir, isStep.ne_here, isStep.ne_parent, Nat.not_lt.mpr isStep.short, if_false,
      hlink, List.isEmpty_iff, goOn]
    exact ih

theorem follow_eq_ok_iff :
    follow root last links place path = .ok dest ↔ Arrives root last links place path dest :=
  ⟨arrives_of_follow, follow_of_arrives⟩

/-- A place with a directory, or in a directory and no link. -/
def Settled (root : Node) (place : List Bytes) : Prop :=
  root.kindAt place = some .dir ∨ ∃ parent name, place = parent ++ [name] ∧
    root.kindAt parent = some .dir ∧ ∀ target, root.kindAt place ≠ some (.link target)

theorem Arrives.settled (h : Arrives root last links place path dest) (hlast : last ≠ .keep)
    (hplace : path = [] → Settled root place) : Settled root dest := by
  induction h with
  | done => exact hplace rfl
  | here isDir _ ih => exact ih fun _ => Or.inl isDir
  | @up _ place _ _ isDir _ ih =>
    refine ih fun _ => Or.inl ?_
    obtain ⟨q, hq⟩ := List.dropLast_prefix place
    exact Node.dirAt_of_append (hq ▸ isDir)
  | down isDir _ there noLink _ ih =>
    refine ih fun _ => Or.inr ⟨_, _, rfl, isDir, fun target => ?_⟩
    rw [there]
    exact fun h => noLink target (Option.some.inj h)
  | fresh isDir _ missing _ => exact Or.inr ⟨_, _, rfl, isDir, by simp [missing]⟩
  | kept _ _ _ keep => exact absurd keep hlast
  | @through _ place _ _ _ _ isDir _ _ _ _ ih =>
    refine ih fun _ => Or.inl ?_
    split
    · exact Node.dirAt_of_append (p := []) isDir
    · exact isDir

theorem Arrives.isDir_of_dot (h : Arrives root last links place path dest)
    (hpath : path.getLast? = some [Path.dot]) : root.kindAt dest = some .dir := by
  induction h with
  | done => cases hpath
  | @here _ _ rest _ isDir further ih =>
    cases rest with
    | nil =>
      cases further
      exact isDir
    | cons => exact ih (by simpa using hpath)
  | @up _ _ rest _ isDir further ih =>
    cases rest with
    | nil => simp at hpath
    | cons => exact ih (by simpa using hpath)
  | @down _ _ rest _ _ _ _ isStep _ _ _ ih =>
    cases rest with
    | nil => exact absurd (by simpa using hpath) isStep.ne_here
    | cons => exact ih (by simpa using hpath)
  | fresh _ isStep _ _ => exact absurd (by simpa using hpath) isStep.ne_here
  | kept _ isStep _ _ => exact absurd (by simpa using hpath) isStep.ne_here
  | @through _ _ rest _ _ _ _ isStep _ _ _ ih =>
    cases rest with
    | nil => exact absurd (by simpa using hpath) isStep.ne_here
    | cons =>
      apply ih
      rw [List.getLast?_append_cons]
      simpa using hpath

/-- A path that can be looked up at all. -/
structure Readable (path : Path) : Prop where
  ne_nil : path ≠ []
  no_nul : 0 ∉ path
  short : path.length ≤ maxPath

def origin (d : Disk) (path : Path) : List Bytes := if Path.isAbsolute path then [] else d.here

theorem locate_eq_ok_iff {d : Disk} {path : Path} {dest : List Bytes} :
    d.locate last path = .ok dest ↔
      Readable path ∧ Arrives d.root last maxLinks (d.origin path) (steps path) dest := by
  rw [← follow_eq_ok_iff, ← travel_eq_follow, locate]
  split
  · next h => exact iff_of_false (by simp) fun hr => hr.1.no_nul (by simpa using h)
  · next hnul =>
    split
    · next h =>
      refine iff_of_false (by simp) fun hr => ?_
      have := hr.1.short
      omega
    · next hshort =>
      split
      · next h => exact iff_of_false (by simp) fun hr => hr.1.ne_nil (by simpa using h)
      · next hne =>
        refine (and_iff_right ⟨by simpa using hne, by simpa using hnul, by omega⟩).symm

theorem find_eq_ok_iff {d : Disk} {path : Path} {n : Node} :
    d.find path = .ok n ↔
      ∃ place, d.locate .follow path = .ok place ∧ d.root.get? place = some n := by
  rw [find]
  cases d.locate .follow path with
  | error t => simp
  | ok place => cases hn : d.root.get? place <;> simp [hn]

theorem opened_eq_ok_iff {d : Disk} {path : Path} {n : Node} :
    d.opened path = .ok n ↔ ∃ place, d.locate .follow path = .ok place ∧
      d.root.get? place = some n ∧ d.refused place = none := by
  rw [opened]
  cases d.locate .follow path with
  | error t => simp
  | ok place =>
    cases hn : d.root.get? place <;> cases hr : d.refused place <;> simp [hn, hr]

theorem find_of_opened {d : Disk} {path : Path} {n : Node} (h : d.opened path = .ok n) :
    d.find path = .ok n := by
  obtain ⟨place, hplace, hn, -⟩ := opened_eq_ok_iff.mp h
  exact find_eq_ok_iff.mpr ⟨place, hplace, hn⟩

/-- The names that a path takes, without the dot that a slash at its end stands for. -/
def names (path : Path) : List Bytes := (Text.pieces Path.slash path).filter (!·.isEmpty)

theorem steps_eq (path : Path) :
    steps path = names path ∨ steps path = names path ++ [[Path.dot]] := by
  rw [steps]
  split
  · exact Or.inr rfl
  · exact Or.inl (List.append_nil _)

theorem steps_ne_nil {path : Path} (h : path ≠ []) : steps path ≠ [] := by
  intro hsteps
  rw [steps, List.append_eq_nil_iff] at hsteps
  obtain ⟨hpieces, hend⟩ := hsteps
  obtain ⟨front, c, rfl⟩ := (List.eq_nil_or_concat' path).resolve_left h
  by_cases hc : c = Path.slash
  · simp [Text.endsWith, hc, Text.before?_eq_some_iff.mpr rfl] at hend
  · obtain ⟨p, hp, hcp⟩ := Text.exists_mem_pieces (t := front ++ [c]) (by simp) hc
    have hempty := List.filter_eq_nil_iff.mp hpieces p hp
    simp only [Bool.not_eq_eq_eq_not, Bool.not_true, Bool.not_eq_false, List.isEmpty_iff] at hempty
    exact absurd hcp (by simp [hempty])

end StyleGuide.Disk
