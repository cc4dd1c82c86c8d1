import StyleGuide.Proofs.Disk.Changes

namespace StyleGuide.Disk

/-- Directories and links stay what they are, and files stay files. -/
structure Keeps (d e : Disk) : Prop where
  here : e.here = d.here
  refused : e.refused = d.refused
  kindAt : ∀ q kind, d.root.kindAt q = some kind → e.root.kindAt q = some kind ∨
    ∃ old new, kind = .file old ∧ e.root.kindAt q = some (.file new)

theorem Keeps.refl (d : Disk) : Keeps d d := ⟨rfl, rfl, fun _ _ h => Or.inl h⟩

theorem Grows.keeps {d e : Disk} (h : Grows d e) : Keeps d e :=
  ⟨h.here, h.refused, fun _ _ hq => Or.inl (h.of_some hq)⟩

theorem Puts.keeps {d e : Disk} {place : List Bytes} {bytes : ByteArray}
    (h : Puts d e place (.file bytes)) (htakes : d.Takes place) : Keeps d e := by
  refine ⟨h.here, h.refused, fun q kind hq => ?_⟩
  rw [h.kindAt]
  split
  · next hplace =>
    subst hplace
    cases kind with
    | file old => exact Or.inr ⟨old, bytes, rfl, rfl⟩
    | link target => exact absurd hq (htakes.noLink target)
    | dir => exact absurd hq htakes.noDir
  · exact Or.inl hq

theorem Keeps.isDir {d e : Disk} (h : Keeps d e) {q : List Bytes}
    (hq : d.root.kindAt q = some .dir) : e.root.kindAt q = some .dir := by
  rcases h.kindAt q _ hq with he | ⟨_, _, hkind, _⟩
  · exact he
  · cases hkind

theorem Keeps.link {d e : Disk} (h : Keeps d e) {q : List Bytes} {target : Path}
    (hq : d.root.kindAt q = some (.link target)) : e.root.kindAt q = some (.link target) := by
  rcases h.kindAt q _ hq with he | ⟨_, _, hkind, _⟩
  · exact he
  · cases hkind

theorem Arrives.of_keeps {d e : Disk} (hkeeps : Keeps d e) {last : Last} (hlast : last ≠ .keep)
    {links : Nat} {place path dest : List Bytes}
    (h : Arrives d.root .follow links place path dest) :
    Arrives e.root last links place path dest := by
  induction h with
  | done => exact .done
  | here isDir _ ih => exact .here (hkeeps.isDir isDir) ih
  | up isDir _ ih => exact .up (hkeeps.isDir isDir) ih
  | down isDir isStep there noLink _ ih =>
    rcases hkeeps.kindAt _ _ there with he | ⟨_, _, _, he⟩
    · exact .down (hkeeps.isDir isDir) isStep he noLink ih
    · exact .down (hkeeps.isDir isDir) isStep he (by simp) ih
  | fresh _ _ _ create => cases create
  | kept _ _ _ keep => cases keep
  | through isDir isStep there _ _ ih =>
    exact .through (hkeeps.isDir isDir) isStep (hkeeps.link there) (fun hend => hlast hend.2) ih

theorem Keeps.origin {d e : Disk} (h : Keeps d e) (path : Path) : e.origin path = d.origin path := by
  rw [Disk.origin, Disk.origin, h.here]

theorem Keeps.locate {d e : Disk} (h : Keeps d e) {path : Path} {dest : List Bytes}
    (hdest : d.locate .follow path = .ok dest) {last : Last} (hlast : last ≠ .keep) :
    e.locate last path = .ok dest := by
  obtain ⟨hreadable, harrives⟩ := locate_eq_ok_iff.mp hdest
  exact locate_eq_ok_iff.mpr ⟨hreadable, h.origin path ▸ harrives.of_keeps h hlast⟩

theorem isDir_iff {d : Disk} {path : Path} :
    d.isDir path = true ↔
      ∃ dest, d.locate .follow path = .ok dest ∧ d.root.kindAt dest = some .dir := by
  rw [Disk.isDir]
  constructor
  · split
    · next entries hfind =>
      intro _
      obtain ⟨dest, hdest, hget⟩ := find_eq_ok_iff.mp hfind
      exact ⟨dest, hdest, Node.kindAt_eq_dir_iff.mpr ⟨entries, hget⟩⟩
    · exact fun h => absurd h Bool.false_ne_true
  · rintro ⟨dest, hdest, hdir⟩
    obtain ⟨entries, hget⟩ := Node.kindAt_eq_dir_iff.mp hdir
    rw [find_eq_ok_iff.mpr ⟨dest, hdest, hget⟩]

theorem Keeps.isDir_path {d e : Disk} (h : Keeps d e) {path : Path} (hdir : d.isDir path = true) :
    e.isDir path = true := by
  obtain ⟨dest, hdest, hkind⟩ := isDir_iff.mp hdir
  exact isDir_iff.mpr ⟨dest, h.locate hdest (by simp), h.isDir hkind⟩

variable {root : Node} {last : Last} {links : Nat} {place dest : List Bytes}

/-- The first steps lead to a directory, and the others on from there. Whatever else leads on from
there leads from the start, too. -/
theorem Arrives.upTo {front rest : List Bytes} {step : Bytes}
    (h : Arrives root last links place (front ++ step :: rest) dest) :
    ∃ mid left, root.kindAt mid = some .dir ∧ Arrives root last left mid (step :: rest) dest ∧
      ∀ tail other, Arrives root .follow left mid tail other →
        Arrives root .follow links place (front ++ tail) other := by
  generalize hpath : front ++ step :: rest = path at h
  induction h generalizing front with
  | done => simp at hpath
  | here isDir further ih =>
    cases front with
    | nil =>
      obtain ⟨rfl, rfl⟩ := List.cons.inj hpath
      exact ⟨_, _, isDir, .here isDir further, fun _ _ htail => htail⟩
    | cons s front =>
      obtain ⟨rfl, hrest⟩ := List.cons.inj hpath
      obtain ⟨mid, left, hmid, hfurther, hback⟩ := ih hrest
      exact ⟨mid, left, hmid, hfurther, fun tail other htail => .here isDir (hback tail other htail)⟩
  | up isDir further ih =>
    cases front with
    | nil =>
      obtain ⟨rfl, rfl⟩ := List.cons.inj hpath
      exact ⟨_, _, isDir, .up isDir further, fun _ _ htail => htail⟩
    | cons s front =>
      obtain ⟨rfl, hrest⟩ := List.cons.inj hpath
      obtain ⟨mid, left, hmid, hfurther, hback⟩ := ih hrest
      exact ⟨mid, left, hmid, hfurther, fun tail other htail => .up isDir (hback tail other htail)⟩
  | down isDir isStep there noLink further ih =>
    cases front with
    | nil =>
      obtain ⟨rfl, rfl⟩ := List.cons.inj hpath
      exact ⟨_, _, isDir, .down isDir isStep there noLink further, fun _ _ htail => htail⟩
    | cons s front =>
      obtain ⟨rfl, hrest⟩ := List.cons.inj hpath
      obtain ⟨mid, left, hmid, hfurther, hback⟩ := ih hrest
      exact ⟨mid, left, hmid, hfurther,
        fun tail other htail => .down isDir isStep there noLink (hback tail other htail)⟩
  | @fresh links place _ isDir isStep missing create =>
    cases front with
    | nil =>
      obtain ⟨rfl, rfl⟩ := List.cons.inj hpath
      exact ⟨place, links, isDir, .fresh isDir isStep missing create, fun _ _ htail => htail⟩
    | cons s front => simp at hpath
  | @kept links place _ _ isDir isStep there keep =>
    cases front with
    | nil =>
      obtain ⟨rfl, rfl⟩ := List.cons.inj hpath
      exact ⟨place, links, isDir, .kept isDir isStep there keep, fun _ _ htail => htail⟩
    | cons s front => simp at hpath
  | through isDir isStep there goOn further ih =>
    cases front with
    | nil =>
      obtain ⟨rfl, rfl⟩ := List.cons.inj hpath
      exact ⟨_, _, isDir, .through isDir isStep there goOn further, fun _ _ htail => htail⟩
    | cons s front =>
      obtain ⟨rfl, rfl⟩ := List.cons.inj hpath
      obtain ⟨mid, left, hmid, hfurther, hback⟩ := ih (List.append_assoc _ front _)
      refine ⟨mid, left, hmid, hfurther, fun tail other htail => ?_⟩
      exact .through isDir isStep there (by simp) (List.append_assoc _ front tail ▸
        hback tail other htail)

theorem Arrives.unique {path dest' : List Bytes} (h : Arrives root last links place path dest)
    (h' : Arrives root last links place path dest') : dest = dest' :=
  Except.ok.inj ((follow_of_arrives h).symm.trans (follow_of_arrives h'))

theorem Makes.isDir_eq_false {d e : Disk} {path : Path} {name : Bytes} {front parent : List Bytes}
    (h : Makes d e path front name parent) : d.isDir path = false := by
  rw [Bool.eq_false_iff]
  intro hdir
  obtain ⟨dest, hdest, -⟩ := isDir_iff.mp hdir
  obtain ⟨rest, hsteps⟩ : ∃ rest, steps path = front ++ name :: rest := by
    rcases steps_eq path with hsteps | hsteps
    · exact ⟨[], by rw [hsteps, h.names_eq]⟩
    · exact ⟨[[Path.dot]], by rw [hsteps, h.names_eq, List.append_assoc]; rfl⟩
  have harrives := (locate_eq_ok_iff.mp hdest).2
  rw [hsteps] at harrives
  obtain ⟨mid, left, hmid, hfurther, hback⟩ := harrives.upTo
  obtain rfl : parent = mid := h.arrives.unique (hback _ _ (.here hmid .done))
  have hmissing := h.missing
  cases hfurther with
  | here => exact h.isStep.ne_here rfl
  | up => exact h.isStep.ne_parent rfl
  | down _ _ there => simp [hmissing] at there
  | fresh _ _ _ create => cases create
  | kept _ _ _ keep => cases keep
  | through _ _ there => simp [hmissing] at there

theorem ensureDir_of_isDir {d : Disk} {path : Path} (h : d.isDir path = true) :
    d.ensureDir path = (d, .ok ()) := by
  rw [ensureDir]
  split
  · next e he =>
    obtain ⟨_, _, _, hmakes⟩ := makeDir_eq_ok he
    rw [hmakes.isDir_eq_false] at h
    cases h
  · rw [if_pos h]

theorem Makes.isDir {d e : Disk} {path : Path} {name : Bytes} {front parent : List Bytes}
    (h : Makes d e path front name parent) : e.isDir path = true := by
  have hkeeps := (h.puts.grows h.missing).keeps
  have harrives : Arrives e.root .follow maxLinks (d.origin path) (front ++ [[Path.dot]]) parent :=
    h.arrives.of_keeps hkeeps (by simp)
  obtain ⟨mid, left, hmid, hfurther, hback⟩ := harrives.upTo
  obtain rfl : parent = mid := hfurther.unique (.here hmid .done)
  have hnew : e.root.kindAt (parent ++ [name]) = some .dir := by rw [h.puts.kindAt, if_pos rfl]
  refine isDir_iff.mpr ⟨parent ++ [name], locate_eq_ok_iff.mpr ⟨h.readable, ?_⟩, hnew⟩
  rw [hkeeps.origin]
  rcases steps_eq path with hsteps | hsteps
  · rw [hsteps, h.names_eq]
    exact hback _ _ (.down hmid h.isStep hnew (by simp) .done)
  · rw [hsteps, h.names_eq, List.append_assoc]
    exact hback _ _ (.down hmid h.isStep hnew (by simp) (.here hnew .done))

theorem isDir_of_ensureDir {d e : Disk} {path : Path} (h : d.ensureDir path = (e, .ok ())) :
    e.isDir path = true := by
  unfold ensureDir at h
  split at h
  · next he =>
    obtain ⟨rfl, -⟩ := Prod.mk.inj h
    obtain ⟨_, _, _, hmakes⟩ := makeDir_eq_ok he
    exact hmakes.isDir
  · split at h
    · next hdir =>
      obtain ⟨rfl, -⟩ := Prod.mk.inj h
      exact hdir
    · cases (Prod.mk.inj h).2

theorem names_parent? {path parent : Path} (h : Path.parent? path = some parent)
    (hparent : parent ≠ []) : ∃ step rest, names path = names parent ++ step :: rest := by
  obtain ⟨s, hpath, name, hmem, hname⟩ := Path.parent?_eq_some h hparent
  obtain ⟨step, rest, hs⟩ : ∃ step rest, names s = step :: rest :=
    List.exists_cons_of_ne_nil (List.ne_nil_of_mem (List.mem_filter.mpr ⟨hmem, by simpa using hname⟩))
  refine ⟨step, rest, ?_⟩
  rw [← hs]
  rcases hpath with rfl | ⟨rfl, rfl⟩
  · rw [names, Text.pieces_append_sep, List.filter_append]
    rfl
  · rfl

theorem origin_append {d : Disk} {front rest : Path} (hfront : front ≠ []) :
    d.origin (front ++ rest) = d.origin front := by
  obtain ⟨c, front, rfl⟩ := List.exists_cons_of_ne_nil hfront
  simp [origin, Path.isAbsolute, Text.startsWith, Text.after?]

theorem Readable.front {front rest : Path} (h : Readable (front ++ rest)) (hfront : front ≠ []) :
    Readable front := by
  refine ⟨hfront, fun hnul => h.no_nul (List.mem_append_left rest hnul), ?_⟩
  have := h.short
  rw [List.length_append] at this
  omega

theorem isDir_parent {d : Disk} {path parent : Path} {step : Bytes} {rest dest : List Bytes}
    (hpath : Readable path) (h : Path.parent? path = some parent) (hparent : parent ≠ [])
    (harrives :
      Arrives d.root .follow maxLinks (d.origin path) (names parent ++ step :: rest) dest) :
    d.isDir parent = true := by
  obtain ⟨more, rfl⟩ : ∃ more, path = parent ++ more := by
    obtain ⟨s, rfl | ⟨-, rfl⟩, -⟩ := Path.parent?_eq_some h hparent
    · exact ⟨_, rfl⟩
    · exact ⟨_, rfl⟩
  obtain ⟨mid, left, hmid, -, hback⟩ := harrives.upTo
  rw [origin_append hparent] at hback
  refine isDir_iff.mpr ⟨mid, locate_eq_ok_iff.mpr ⟨hpath.front hparent, ?_⟩, hmid⟩
  rcases steps_eq parent with hsteps | hsteps
  · rw [hsteps]
    simpa using hback [] mid .done
  · rw [hsteps]
    exact hback _ _ (.here hmid .done)

/-- A directory that is there, or that can be made, is in a directory. -/
theorem isDir_parent_of_ensureDir {d e : Disk} {path parent : Path}
    (h : d.ensureDir path = (e, .ok ())) (hparent : Path.parent? path = some parent)
    (hne : parent ≠ []) : d.isDir parent = true := by
  obtain ⟨step, rest, hnames⟩ := names_parent? hparent hne
  cases hmake : d.makeDir path with
  | ok made =>
    obtain ⟨front, name, place, hmakes⟩ := makeDir_eq_ok hmake
    obtain ⟨step', rest', hfront⟩ :
        ∃ step' rest', front ++ [[Path.dot]] = names parent ++ step' :: rest' := by
      have hsplit := hmakes.names_eq.symm.trans hnames
      rcases List.eq_nil_or_concat' rest with rfl | ⟨init, final, rfl⟩
      · exact ⟨[Path.dot], [], by rw [(List.append_inj' hsplit rfl).1]⟩
      · refine ⟨step, init ++ [[Path.dot]], ?_⟩
        rw [← List.cons_append, ← List.append_assoc] at hsplit ⊢
        rw [(List.append_inj' hsplit rfl).1]
    exact isDir_parent hmakes.readable hparent hne (hfront ▸ hmakes.arrives)
  | error t =>
    have hdir : d.isDir path = true := by
      rw [ensureDir, hmake] at h
      simp only at h
      split at h
      · assumption
      · cases (Prod.mk.inj h).2
    obtain ⟨dest, hdest, -⟩ := isDir_iff.mp hdir
    obtain ⟨hreadable, harrives⟩ := locate_eq_ok_iff.mp hdest
    obtain ⟨rest', hsteps⟩ : ∃ rest', steps path = names parent ++ step :: rest' := by
      rcases steps_eq path with hsteps | hsteps
      · exact ⟨rest, by rw [hsteps, hnames]⟩
      · exact ⟨rest ++ [[Path.dot]], by rw [hsteps, hnames, List.append_assoc, List.cons_append]⟩
    exact isDir_parent hreadable hparent hne (hsteps ▸ harrives)

theorem eq_of_ensureDir_error {d e : Disk} {path : Path} {t : Trouble}
    (h : d.ensureDir path = (e, .error t)) : e = d := by
  unfold ensureDir at h
  split at h
  · cases (Prod.mk.inj h).2
  · split at h
    · cases (Prod.mk.inj h).2
    · exact (Prod.mk.inj h).1.symm

theorem makeDirs_of_isDir {d : Disk} {path : Path} (h : path = [] ∨ d.isDir path = true)
    (levels : Nat) : d.makeDirs path (levels + 1) = (d, .ok ()) := by
  rw [makeDirs]
  split
  · rfl
  · next hne =>
    rw [ensureDir_of_isDir (h.resolve_left fun hnil => hne (by rw [hnil]; rfl))]

theorem isDir_of_makeDirs {d e : Disk} {path : Path} {levels : Nat}
    (h : d.makeDirs path levels = (e, .ok ())) : path = [] ∨ e.isDir path = true := by
  cases levels with
  | zero => cases (Prod.mk.inj h).2
  | succ levels =>
    rw [makeDirs] at h
    split at h
    · next hempty => exact Or.inl (by simpa using hempty)
    · right
      split at h
      · split at h
        · exact isDir_of_ensureDir h
        · cases (Prod.mk.inj h).2
      · next hensure _ =>
        obtain ⟨rfl, rfl⟩ := Prod.mk.inj h
        exact isDir_of_ensureDir hensure

theorem makeDirs_of_ensureDir_error {d : Disk} {path : Path} {t : Trouble} {levels : Nat}
    (hne : path ≠ []) (h : d.ensureDir path = (d, .error t))
    (hparent : ∀ parent, Path.parent? path = some parent → ∃ r, d.makeDirs parent levels = (d, r)) :
    ∃ cause, d.makeDirs path (levels + 1) = (d, .error cause) := by
  rw [makeDirs, if_neg (by simpa using hne), h]
  split
  · next parent hresult hparent' =>
    obtain ⟨r, hr⟩ := hparent parent hparent'
    rw [hr]
    cases r with
    | ok _ => exact ⟨t, h⟩
    | error cause => exact ⟨cause, rfl⟩
  · next hresult _ =>
    obtain ⟨rfl, rfl⟩ := Prod.mk.inj hresult
    exact ⟨t, rfl⟩

theorem makeDirs_again {d e : Disk} {path : Path} {levels : Nat} {t : Trouble}
    (h : d.makeDirs path levels = (e, .error t)) :
    ∃ cause, e.makeDirs path levels = (e, .error cause) := by
  induction levels generalizing path e t with
  | zero =>
    obtain ⟨rfl, -⟩ := Prod.mk.inj h
    exact ⟨_, rfl⟩
  | succ levels ih =>
    have hfirst := h
    rw [makeDirs] at h
    split at h
    · cases (Prod.mk.inj h).2
    next hempty =>
    have hne : path ≠ [] := by simpa using hempty
    split at h
    · next parent hensure hparent =>
      split at h
      · next f hmade =>
        -- The directories above are there now, and only the last one fails again.
        obtain rfl := eq_of_ensureDir_error h
        refine makeDirs_of_ensureDir_error hne h fun parent' hparent' => ?_
        obtain rfl := Option.some.inj (hparent.symm.trans hparent')
        cases levels with
        | zero => cases (Prod.mk.inj hmade).2
        | succ levels => exact ⟨_, makeDirs_of_isDir (isDir_of_makeDirs hmade) levels⟩
      · next f t' hmade =>
        obtain rfl := (Prod.mk.inj h).1
        obtain ⟨cause, hfails⟩ := ih hmade
        cases hfinal : f.ensureDir path with
        | mk g r =>
          cases r with
          | error t'' =>
            obtain rfl := eq_of_ensureDir_error hfinal
            refine makeDirs_of_ensureDir_error hne hfinal fun parent' hparent' => ?_
            obtain rfl := Option.some.inj (hparent.symm.trans hparent')
            exact ⟨_, hfails⟩
          | ok _ =>
            -- A directory above still cannot be made, so it is not there, and nothing is in it.
            exfalso
            cases levels with
            | zero =>
              obtain rfl := (Prod.mk.inj hmade).1
              cases (Prod.mk.inj (hensure.symm.trans hfinal)).2
            | succ levels =>
              have hdir : parent = [] ∨ f.isDir parent = true := by
                by_cases hnil : parent = []
                · exact Or.inl hnil
                · exact Or.inr (isDir_parent_of_ensureDir hfinal hparent hnil)
              cases (Prod.mk.inj (hfails.symm.trans (makeDirs_of_isDir hdir levels))).2
    · next hensure _ =>
      obtain ⟨rfl, rfl⟩ := Prod.mk.inj h
      obtain rfl := eq_of_ensureDir_error hensure
      exact ⟨t, hfirst⟩

theorem createDirAll_kept {d e f : Disk} {path : Path} (h : d.createDirAll path = (e, .ok ()))
    (hkeeps : Keeps e f) : f.createDirAll path = (f, .ok ()) :=
  makeDirs_of_isDir ((isDir_of_makeDirs h).imp_right hkeeps.isDir_path) _

theorem createDirAll_again {d e : Disk} {path : Path} {t : Trouble}
    (h : d.createDirAll path = (e, .error t)) : ∃ cause, e.createDirAll path = (e, .error cause) :=
  makeDirs_again h

theorem write_again {d e : Disk} {path : Path} {bytes : ByteArray} (h : d.write path bytes = .ok e) :
    ∃ f, e.write path bytes = .ok f ∧ ∀ q, f.root.kindAt q = e.root.kindAt q := by
  obtain ⟨place, htakes, hputs, hlocate⟩ := write_eq_ok h
  have hcreate : e.locate .create path = .ok place := (Keeps.refl e).locate hlocate (by simp)
  have hkind : e.root.kindAt place = some (.file bytes) := by rw [hputs.kindAt, if_pos rfl]
  have hget := Node.kindAt_eq_file_iff.mp hkind
  obtain ⟨f, hf⟩ : ∃ f, e.write path bytes = .ok f := by
    rw [write, hcreate]
    simp only [hget]
    exact ⟨_, rfl⟩
  refine ⟨f, hf, fun q => ?_⟩
  obtain ⟨place', htakes', hputs', hlocate'⟩ := write_eq_ok hf
  have hsame : f.locate .follow path = .ok place :=
    (hputs'.keeps htakes').locate hlocate (by simp)
  obtain rfl : place' = place := Except.ok.inj (hlocate'.symm.trans hsame)
  rw [hputs'.kindAt]
  split
  · next hq => rw [hq, hkind]
  · rfl

end StyleGuide.Disk
