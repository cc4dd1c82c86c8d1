import StyleGuide.Disk.Change
import StyleGuide.Proofs.Disk.Lookup

namespace StyleGuide.Disk

/-- Nothing is changed and only directories are new. -/
structure Grows (d e : Disk) : Prop where
  here : e.here = d.here
  refused : e.refused = d.refused
  kindAt : ∀ q, e.root.kindAt q = d.root.kindAt q ∨
    d.root.kindAt q = none ∧ e.root.kindAt q = some .dir

theorem Grows.refl (d : Disk) : Grows d d := ⟨rfl, rfl, fun _ => Or.inl rfl⟩

theorem Grows.trans {d e f : Disk} (hde : Grows d e) (hef : Grows e f) : Grows d f := by
  refine ⟨hef.here.trans hde.here, hef.refused.trans hde.refused, fun q => ?_⟩
  rcases hef.kindAt q with hf | ⟨he, hf⟩
  · rw [hf]
    exact hde.kindAt q
  · rcases hde.kindAt q with hd | ⟨_, hd⟩
    · exact Or.inr ⟨hd ▸ he, hf⟩
    · exact absurd (hd.symm.trans he) (by simp)

theorem Grows.of_some {d e : Disk} (h : Grows d e) {q : List Bytes} {k : Kind}
    (hq : d.root.kindAt q = some k) : e.root.kindAt q = some k := by
  rcases h.kindAt q with he | ⟨hd, _⟩
  · rw [he, hq]
  · exact absurd (hq.symm.trans hd) (by simp)

/-- Nothing is at the place but perhaps a file, so a file can be put there. -/
structure Takes (d : Disk) (place : List Bytes) : Prop where
  noDir : d.root.kindAt place ≠ some .dir
  noLink : ∀ target, d.root.kindAt place ≠ some (.link target)

theorem Grows.takes {d e : Disk} (h : Grows d e) {place : List Bytes} (htakes : e.Takes place) :
    d.Takes place :=
  ⟨fun hdir => htakes.noDir (h.of_some hdir),
    fun target hlink => htakes.noLink target (h.of_some hlink)⟩

/-- The place has something of this kind, and all else is as before. -/
structure Puts (d e : Disk) (place : List Bytes) (kind : Kind) : Prop where
  here : e.here = d.here
  refused : e.refused = d.refused
  kindAt : ∀ q, e.root.kindAt q = if q = place then some kind else d.root.kindAt q

theorem puts_put {d : Disk} {new : Node} {parent : List Bytes} {name : Bytes}
    (hparent : d.root.kindAt parent = some .dir)
    (hold : d.root.kindAt (parent ++ [name]) ≠ some .dir)
    (hnew : ∀ step q, new.kindAt (step :: q) = none) :
    Puts d { d with root := d.root.put (parent ++ [name]) new } (parent ++ [name]) new.kind := by
  refine ⟨rfl, rfl, Node.kindAt_put hparent hold fun q hq => ?_⟩
  obtain ⟨step, q, rfl⟩ := List.exists_cons_of_ne_nil hq
  exact hnew step q

theorem Puts.grows {d e : Disk} {place : List Bytes} (h : Puts d e place .dir)
    (hmissing : d.root.kindAt place = none) : Grows d e := by
  refine ⟨h.here, h.refused, fun q => ?_⟩
  rw [h.kindAt]
  split
  · next hq => exact Or.inr ⟨hq ▸ hmissing, rfl⟩
  · exact Or.inl rfl

/-- How a directory is made: where the other names of its path lead, nothing has the last one. -/
structure Makes (d e : Disk) (path : Path) (front : List Bytes) (name : Bytes)
    (parent : List Bytes) : Prop where
  readable : Readable path
  names_eq : names path = front ++ [name]
  isStep : IsStep name
  arrives : Arrives d.root .follow maxLinks (d.origin path) (front ++ [[Path.dot]]) parent
  missing : d.root.kindAt (parent ++ [name]) = none
  puts : Puts d e (parent ++ [name]) .dir

theorem makeDir_eq_ok {d e : Disk} {path : Path} (h : d.makeDir path = .ok e) :
    ∃ front name parent, Makes d e path front name parent := by
  unfold makeDir at h
  split at h
  · cases h
  next hnul =>
  split at h
  · cases h
  next hshort =>
  split at h
  · cases h
  next hne =>
  simp only at h
  split at h
  · cases h
  next name hname =>
  split at h
  · cases h
  next parent hparent =>
  split at h
  · cases h
  next hdots =>
  split at h
  · cases h
  next hlong =>
  split at h
  · cases h
  next hnone =>
  obtain rfl := Except.ok.inj h
  obtain ⟨front, hfront⟩ := List.getLast?_eq_some_iff.mp hname
  rw [hfront, List.dropLast_concat, travel_eq_follow, follow_eq_ok_iff] at hparent
  rw [not_or] at hdots
  have hmissing : d.root.kindAt (parent ++ [name]) = none := by
    rw [Node.kindAt, hnone, Option.map_none]
  exact ⟨front, name, parent, {
    readable := ⟨by simpa using hne, by simpa using hnul, by omega⟩
    names_eq := hfront
    isStep := ⟨hdots.1, hdots.2, by omega⟩
    arrives := hparent
    missing := hmissing
    puts := puts_put (hparent.isDir_of_dot (by simp)) (by simp [hmissing]) fun _ _ => rfl }⟩

theorem grows_ensureDir (d : Disk) (path : Path) : Grows d (d.ensureDir path).1 := by
  unfold ensureDir
  split
  · next e he =>
    obtain ⟨_, _, _, hmakes⟩ := makeDir_eq_ok he
    exact hmakes.puts.grows hmakes.missing
  · split <;> exact .refl d

theorem grows_makeDirs (d : Disk) (path : Path) (levels : Nat) :
    Grows d (d.makeDirs path levels).1 := by
  induction levels generalizing path with
  | zero => exact .refl d
  | succ levels ih =>
    rw [makeDirs]
    split
    · exact .refl d
    · split
      · next parent _ _ =>
        have hparent := ih parent
        split
        · next e he =>
          rw [he] at hparent
          exact hparent.trans (grows_ensureDir e path)
        · next e t he =>
          rw [he] at hparent
          exact hparent
      · next e r he _ =>
        have := grows_ensureDir d path
        rwa [he] at this

theorem grows_createDirAll (d : Disk) (path : Path) : Grows d (d.createDirAll path).1 :=
  grows_makeDirs d path _

theorem Puts.isDir {d e : Disk} {place q : List Bytes} {kind : Kind} (h : Puts d e place kind)
    (hplace : d.root.kindAt place ≠ some .dir) (hq : d.root.kindAt q = some .dir) :
    e.root.kindAt q = some .dir := by
  have hne : q ≠ place := by
    rintro rfl
    exact hplace hq
  rw [h.kindAt, if_neg hne, hq]

/-- Once there is a file where a path leads, or would lead, the path leads to it. -/
theorem Arrives.of_puts {d e : Disk} {links : Nat} {place path dest : List Bytes}
    {bytes : ByteArray} (h : Arrives d.root .create links place path dest) (hdest : d.Takes dest)
    (hputs : Puts d e dest (.file bytes)) : Arrives e.root .follow links place path dest := by
  induction h with
  | done => exact .done
  | here isDir _ ih => exact .here (hputs.isDir hdest.noDir isDir) (ih hdest hputs)
  | up isDir _ ih => exact .up (hputs.isDir hdest.noDir isDir) (ih hdest hputs)
  | @down _ place _ dest step kind isDir isStep there noLink _ ih =>
    have isDir' := hputs.isDir hdest.noDir isDir
    by_cases hend : place ++ [step] = dest
    · exact .down isDir' isStep (by rw [hputs.kindAt, if_pos hend]) (by simp) (ih hdest hputs)
    · exact .down isDir' isStep (by rw [hputs.kindAt, if_neg hend, there]) noLink (ih hdest hputs)
  | fresh isDir isStep _ _ =>
    exact .down (hputs.isDir hdest.noDir isDir) isStep (by rw [hputs.kindAt, if_pos rfl]) (by simp)
      .done
  | kept _ _ _ keep => cases keep
  | @through _ place _ dest step target isDir isStep there _ _ ih =>
    have hend : place ++ [step] ≠ dest := fun hend => hdest.noLink target (hend ▸ there)
    exact .through (hputs.isDir hdest.noDir isDir) isStep (by rw [hputs.kindAt, if_neg hend, there])
      (by simp) (ih hdest hputs)

theorem write_eq_ok {d e : Disk} {path : Path} {bytes : ByteArray}
    (h : d.write path bytes = .ok e) :
    ∃ place, d.Takes place ∧ Puts d e place (.file bytes) ∧ e.locate .follow path = .ok place := by
  unfold write at h
  split at h
  · cases h
  · next dest hlocate =>
    split at h
    · cases h
    · next hnodir =>
      obtain rfl := Except.ok.inj h
      obtain ⟨hreadable, harrives⟩ := locate_eq_ok_iff.mp hlocate
      have hdir : d.root.kindAt dest ≠ some .dir := by
        intro hdir
        obtain ⟨entries, hentries⟩ := Node.kindAt_eq_dir_iff.mp hdir
        exact hnodir entries hentries
      have hsettled := harrives.settled (by simp) fun hnil =>
        absurd hnil (steps_ne_nil hreadable.ne_nil)
      obtain ⟨parent, name, rfl, hparent, hlink⟩ := hsettled.resolve_left hdir
      have hbelow : ∀ step q, (Node.file bytes).kindAt (step :: q) = none := fun _ _ => rfl
      have hputs := puts_put hparent hdir hbelow
      exact ⟨_, ⟨hdir, hlink⟩, hputs,
        locate_eq_ok_iff.mpr ⟨hreadable, harrives.of_puts ⟨hdir, hlink⟩ hputs⟩⟩

end StyleGuide.Disk
