import StyleGuide.Discovery
import StyleGuide.Proofs.Disk.Lookup

namespace StyleGuide.Discovery

def Found.below (spot : Found) (place : List Bytes) : Found :=
  ⟨Path.below spot.path place, Path.below spot.relative place⟩

def Sighting.path : Sighting → Path
  | file f => f.path
  | trouble path _ => path

variable {refused : List Bytes → Option Disk.Trouble}

theorem sightingsAmong_eq (place : List Bytes) (spot : Found) (entries : List (Bytes × Node)) :
    sightingsAmong refused place spot entries =
      entries.map fun e => (e.1, sightings refused (place ++ [e.1]) (spot.below [e.1]) e.2) := by
  induction entries with
  | nil => rfl
  | cons e entries ih => rw [sightingsAmong, ih]; rfl

/-- The entries of a directory in the order in which they are visited, each with what is seen
there. -/
def visited (refused : List Bytes → Option Disk.Trouble) (place : List Bytes) (spot : Found)
    (entries : List (Bytes × Node)) : List (Bytes × List Sighting) :=
  (entries.map fun e => (e.1, sightings refused (place ++ [e.1]) (spot.below [e.1]) e.2)).mergeSort
    fun a b => decide (a.1 ≤ b.1)

theorem sightings_dir (place : List Bytes) (spot : Found) (entries : List (Bytes × Node)) :
    sightings refused place spot (.dir entries) =
      match refusal? refused place spot.path with
      | some t => [.trouble spot.path t]
      | none => (visited refused place spot entries).flatMap Prod.snd := by
  rw [sightings, sightingsAmong_eq]
  rfl

theorem mem_visited_iff {place : List Bytes} {spot : Found} {entries : List (Bytes × Node)}
    {v : Bytes × List Sighting} :
    v ∈ visited refused place spot entries ↔
      ∃ e ∈ entries, (e.1, sightings refused (place ++ [e.1]) (spot.below [e.1]) e.2) = v := by
  rw [visited, (List.mergeSort_perm _ _).mem_iff, List.mem_map]

theorem ascending_visited (place : List Bytes) (spot : Found) {entries : List (Bytes × Node)}
    (h : (entries.map Prod.fst).Nodup) :
    (visited refused place spot entries).Pairwise fun v w => v.1 < w.1 := by
  have hsorted : (visited refused place spot entries).Pairwise fun v w => v.1 ≤ w.1 := by
    apply (List.pairwise_mergeSort _ _ _).imp
    · exact fun hvw => of_decide_eq_true hvw
    · intro u v w huv hvw
      exact decide_eq_true (List.le_trans (of_decide_eq_true huv) (of_decide_eq_true hvw))
    · intro v w
      simpa using List.le_total v.1 w.1
  have hdistinct : (visited refused place spot entries).Pairwise fun v w => v.1 ≠ w.1 := by
    rw [← List.pairwise_map, ← List.Nodup, visited,
      ((List.mergeSort_perm _ _).map Prod.fst).nodup_iff, List.map_map]
    exact h
  apply (hsorted.and hdistinct).imp
  rintro v w ⟨hle, hne⟩
  exact (List.le_iff_lt_or_eq.mp hle).resolve_right hne

/-- A directory below the one at a place can be listed, if those above it can. -/
structure Listable (refused : List Bytes → Option Disk.Trouble) (place : List Bytes) (path : Path)
    (dir : List Bytes) : Prop where
  short : (Path.below path dir).length ≤ Disk.maxPath
  opens : refused (place ++ dir) = none

theorem refusal?_eq_none_iff {place dir : List Bytes} {path : Path} :
    refusal? refused (place ++ dir) (Path.below path dir) = none ↔
      Listable refused place path dir := by
  rw [refusal?]
  split
  · next h => exact iff_of_false (by simp) fun hl => Nat.not_lt.mpr hl.short h
  · next h => exact ⟨fun hopens => ⟨Nat.not_lt.mp h, hopens⟩, fun hl => hl.opens⟩

/-- All directories on the way from one to a place below it can be listed. -/
def Reached (refused : List Bytes → Option Disk.Trouble) (place : List Bytes) (path : Path)
    (below : List Bytes) : Prop :=
  ∀ dir, dir <+: below → dir ≠ below → Listable refused place path dir

theorem reached_nil (place : List Bytes) (path : Path) : Reached refused place path [] :=
  fun _ hdir hne => absurd (List.prefix_nil.mp hdir) hne

theorem reached_cons {place below : List Bytes} {path : Path} {name : Bytes} :
    Reached refused place path (name :: below) ↔
      refusal? refused place path = none ∧
        Reached refused (place ++ [name]) (Path.join path name) below := by
  have hnil : refusal? refused place path = none ↔ Listable refused place path [] := by
    rw [← refusal?_eq_none_iff, List.append_nil, Path.below_nil]
  have hcons (dir : List Bytes) : Listable refused place path (name :: dir) ↔
      Listable refused (place ++ [name]) (Path.join path name) dir := by
    rw [← refusal?_eq_none_iff, ← refusal?_eq_none_iff, List.append_assoc, Path.below_cons]
    rfl
  rw [hnil]
  constructor
  · intro h
    refine ⟨h [] List.nil_prefix (by simp), fun dir hdir hne => (hcons dir).mp ?_⟩
    exact h _ (List.cons_prefix_cons.mpr ⟨rfl, hdir⟩) (by simpa using hne)
  · rintro ⟨hhere, h⟩ dir hdir hne
    cases dir with
    | nil => exact hhere
    | cons other dir =>
      obtain ⟨rfl, hrest⟩ := List.cons_prefix_cons.mp hdir
      exact (hcons dir).mpr (h dir hrest (by simpa using hne))

/-- What is seen at a node itself. -/
def seenAt? (refused : List Bytes → Option Disk.Trouble) (place : List Bytes) (spot : Found) :
    Node → Option Sighting
  | .file _ => some (.file spot)
  | .link _ => none
  | .dir _ => (refusal? refused place spot.path).map (.trouble spot.path)

theorem path_of_seenAt? {place : List Bytes} {spot : Found} {n : Node} {a : Sighting}
    (h : seenAt? refused place spot n = some a) : a.path = spot.path := by
  cases n with
  | file =>
    obtain rfl := Option.some.inj h
    rfl
  | link => cases h
  | dir =>
    obtain ⟨t, _, rfl⟩ := Option.map_eq_some_iff.mp h
    rfl

theorem seenAt?_here (place : List Bytes) (spot : Found) (n : Node) :
    seenAt? refused (place ++ []) (spot.below []) n = seenAt? refused place spot n := by
  rw [List.append_nil]
  rfl

theorem seenAt?_dir {place : List Bytes} {spot : Found} {entries : List (Bytes × Node)}
    {r : Option Disk.Trouble} (h : refusal? refused place spot.path = r) :
    seenAt? refused place spot (.dir entries) = r.map (.trouble spot.path) :=
  congrArg (Option.map _) h

/-- A node is seen if all directories on the way to it can be listed, and nothing else is. -/
theorem mem_sightings_iff {n : Node} (hn : n.Proper) {place : List Bytes} {spot : Found}
    {a : Sighting} :
    a ∈ sightings refused place spot n ↔ ∃ below m, n.get? below = some m ∧
      Reached refused place spot.path below ∧
      seenAt? refused (place ++ below) (spot.below below) m = some a := by
  induction n using Node.induction generalizing place spot with
  | file bytes =>
    rw [sightings, List.mem_singleton]
    constructor
    · rintro rfl
      exact ⟨[], _, rfl, reached_nil _ _, rfl⟩
    · rintro ⟨below, m, hm, -, ha⟩
      cases below with
      | nil =>
        obtain rfl := Option.some.inj hm
        exact (Option.some.inj ha).symm
      | cons => cases hm
  | link target =>
    rw [sightings]
    refine iff_of_false List.not_mem_nil ?_
    rintro ⟨below, m, hm, -, ha⟩
    cases below with
    | nil =>
      obtain rfl := Option.some.inj hm
      cases ha
    | cons => cases hm
  | dir entries ih =>
    cases hn with
    | dir distinct names below =>
      rw [sightings_dir]
      cases hrefusal : refusal? refused place spot.path with
      | some t =>
        rw [List.mem_singleton]
        constructor
        · rintro rfl
          refine ⟨[], _, rfl, reached_nil _ _, ?_⟩
          rw [seenAt?_here, seenAt?_dir hrefusal, Option.map_some]
        · rintro ⟨place', m, hm, hreached, ha⟩
          cases place' with
          | nil =>
            obtain rfl := Option.some.inj hm
            rw [seenAt?_here, seenAt?_dir hrefusal, Option.map_some] at ha
            exact (Option.some.inj ha).symm
          | cons => exact absurd (reached_cons.mp hreached).1 (by simp [hrefusal])
      | none =>
        -- The way to what is seen begins with the name of an entry.
        simp only [List.mem_flatMap, mem_visited_iff]
        constructor
        · rintro ⟨_, ⟨e, he, rfl⟩, ha⟩
          obtain ⟨place', m, hm, hreached, ha⟩ := (ih e he (below e he)).mp ha
          refine ⟨e.1 :: place', m, ?_, reached_cons.mpr ⟨hrefusal, hreached⟩, ?_⟩
          · rw [Node.get?_dir_cons, Node.lookup_of_mem distinct he, Option.bind_some, hm]
          · rw [List.append_assoc] at ha
            exact ha
        · rintro ⟨place', m, hm, hreached, ha⟩
          cases place' with
          | nil =>
            obtain rfl := Option.some.inj hm
            rw [seenAt?_here, seenAt?_dir hrefusal] at ha
            cases ha
          | cons name place' =>
            rw [Node.get?_dir_cons, Option.bind_eq_some_iff] at hm
            obtain ⟨k, hk, hm⟩ := hm
            have he := Node.mem_of_lookup hk
            refine ⟨_, ⟨_, he, rfl⟩, (ih _ he (below _ he)).mpr
              ⟨place', m, hm, (reached_cons.mp hreached).2, ?_⟩⟩
            rw [List.append_assoc]
            exact ha

theorem exists_place_of_mem {n : Node} (hn : n.Proper) {place : List Bytes} {spot : Found}
    {a : Sighting} (ha : a ∈ sightings refused place spot n) :
    ∃ below, (∀ name ∈ below, Path.IsName name) ∧ a.path = Path.below spot.path below := by
  obtain ⟨below, m, hm, -, ha⟩ := (mem_sightings_iff hn).mp ha
  exact ⟨below, hn.isName_of_get? hm, path_of_seenAt? ha⟩

theorem ascending_sightings {n : Node} (hn : n.Proper) {place : List Bytes} {spot : Found}
    (hspot : spot.path ≠ []) :
    (sightings refused place spot n).Pairwise fun a b =>
      Path.sortKey a.path < Path.sortKey b.path := by
  induction n using Node.induction generalizing place spot with
  | file bytes => exact List.pairwise_singleton _ _
  | link target => exact .nil
  | dir entries ih =>
    cases hn with
    | dir distinct names below =>
      rw [sightings_dir]
      split
      · exact List.pairwise_singleton _ _
      · rw [List.pairwise_flatMap]
        constructor
        · intro v hv
          obtain ⟨e, he, rfl⟩ := mem_visited_iff.mp hv
          exact ih e he (below e he) (Path.join_ne_nil hspot (names e he))
        · apply (ascending_visited place spot distinct).imp_of_mem
          intro v w hv hw hvw a ha b hb
          obtain ⟨e, he, rfl⟩ := mem_visited_iff.mp hv
          obtain ⟨e', he', rfl⟩ := mem_visited_iff.mp hw
          obtain ⟨p, hp, hpath⟩ := exists_place_of_mem (below e he) ha
          obtain ⟨q, hq, hpath'⟩ := exists_place_of_mem (below e' he') hb
          have hkey (e : Bytes × Node) (he : e ∈ entries) (p : List Bytes)
              (hp : ∀ name ∈ p, Path.IsName name) :
              Path.sortKey (Path.below (spot.below [e.1]).path p) =
                Path.sortKey spot.path ++ (e.1 :: p) :=
            Path.sortKey_below hspot (List.forall_mem_cons.mpr ⟨names e he, hp⟩)
          rw [hpath, hpath', hkey e he p hp, hkey e' he' q hq]
          exact List.append_left_lt (List.cons_lt_cons_iff.mpr (Or.inl hvw))

theorem file_mem_sightings_iff {n : Node} (hn : n.Proper) {place : List Bytes} {spot f : Found} :
    .file f ∈ sightings refused place spot n ↔ ∃ below bytes,
      n.get? below = some (.file bytes) ∧ f = spot.below below ∧
        Reached refused place spot.path below := by
  rw [mem_sightings_iff hn]
  constructor
  · rintro ⟨below, m, hm, hreached, hseen⟩
    cases m with
    | file bytes =>
      obtain rfl := Sighting.file.inj (Option.some.inj hseen)
      exact ⟨below, bytes, hm, rfl, hreached⟩
    | link => cases hseen
    | dir =>
      obtain ⟨t, _, ht⟩ := Option.map_eq_some_iff.mp hseen
      cases ht
  · rintro ⟨below, bytes, hm, rfl, hreached⟩
    exact ⟨below, _, hm, hreached, rfl⟩

theorem trouble_mem_sightings_iff {n : Node} (hn : n.Proper) {place : List Bytes} {spot : Found}
    {path : Path} {t : Disk.Trouble} :
    .trouble path t ∈ sightings refused place spot n ↔ ∃ below entries,
      n.get? below = some (.dir entries) ∧ path = Path.below spot.path below ∧
        Reached refused place spot.path below ∧
          refusal? refused (place ++ below) path = some t := by
  rw [mem_sightings_iff hn]
  constructor
  · rintro ⟨below, m, hm, hreached, hseen⟩
    cases m with
    | file => cases hseen
    | link => cases hseen
    | dir entries =>
      obtain ⟨u, hu, heq⟩ := Option.map_eq_some_iff.mp hseen
      obtain ⟨rfl, rfl⟩ := Sighting.trouble.inj heq
      exact ⟨below, entries, hm, rfl, hreached, hu⟩
  · rintro ⟨below, entries, hm, rfl, hreached, ht⟩
    exact ⟨below, _, hm, hreached, congrArg (Option.map _) ht⟩

theorem styleFiles_of_locate {d : Disk} (filter : Filter) {root : Path} {place : List Bytes}
    {entries : List (Bytes × Node)} (hplace : d.locate .follow root = .ok place)
    (hroot : d.root.get? place = some (.dir entries)) :
    styleFiles d filter root =
      ⟨(sightings d.refused place ⟨root, []⟩ (.dir entries)).filterMap warning?,
        .ok ((sightings d.refused place ⟨root, []⟩ (.dir entries)).filterMap (accepted? filter))⟩ := by
  simp only [styleFiles, checkRoot, hplace, hroot]

theorem accepted?_eq_some_iff {filter : Filter} {a : Sighting} {f : Found} :
    accepted? filter a = some f ↔ a = .file f ∧ filter.accepts f.path = true := by
  cases a with
  | trouble => simp [accepted?]
  | file g =>
    simp only [accepted?, Option.ite_none_right_eq_some, Option.some.injEq, Sighting.file.injEq]
    constructor
    · rintro ⟨h, rfl⟩
      exact ⟨rfl, h⟩
    · rintro ⟨rfl, h⟩
      exact ⟨h, rfl⟩

/-- The style files below a root are the regular files there that no link leads to, that the filter
accepts and that stand below directories which can all be listed. They come in strictly ascending
order of the components of their paths. There is a warning for each directory that is reached and
cannot be listed. -/
theorem styleFiles_exact {d : Disk} (hd : d.root.Proper) (filter : Filter) {root : Path}
    {place : List Bytes} {entries : List (Bytes × Node)}
    (hplace : d.locate .follow root = .ok place)
    (hroot : d.root.get? place = some (.dir entries)) :
    ∃ files, (styleFiles d filter root).result = .ok files ∧
      (∀ f, f ∈ files ↔ ∃ below bytes, (Node.dir entries).get? below = some (.file bytes) ∧
        f = ⟨Path.below root below, Path.below [] below⟩ ∧ filter.accepts f.path = true ∧
        ∀ dir, dir <+: below → dir ≠ below →
          (Path.below root dir).length ≤ Disk.maxPath ∧ d.refused (place ++ dir) = none) ∧
      (files.Pairwise fun f g => Path.sortKey f.path < Path.sortKey g.path) ∧
      ∀ e, e ∈ (styleFiles d filter root).events ↔
        ∃ below es t, (Node.dir entries).get? below = some (.dir es) ∧
          (∀ dir, dir <+: below → dir ≠ below →
            (Path.below root dir).length ≤ Disk.maxPath ∧ d.refused (place ++ dir) = none) ∧
          refusal? d.refused (place ++ below) (Path.below root below) = some t ∧
          warning? (.trouble (Path.below root below) t) = some e := by
  have hproper := hd.get? hroot
  have hne : (⟨root, []⟩ : Found).path ≠ [] := (Disk.locate_eq_ok_iff.mp hplace).1.ne_nil
  have hreached (below : List Bytes) : Reached d.refused place root below ↔
      ∀ dir, dir <+: below → dir ≠ below →
        (Path.below root dir).length ≤ Disk.maxPath ∧ d.refused (place ++ dir) = none :=
    ⟨fun h dir hdir hne => ⟨(h dir hdir hne).short, (h dir hdir hne).opens⟩,
      fun h dir hdir hne => ⟨(h dir hdir hne).1, (h dir hdir hne).2⟩⟩
  rw [styleFiles_of_locate filter hplace hroot]
  refine ⟨_, rfl, fun f => ?_, ?_, fun e => ?_⟩
  · simp only [List.mem_filterMap, accepted?_eq_some_iff, ← hreached]
    constructor
    · rintro ⟨_, ha, rfl, haccepts⟩
      obtain ⟨below, bytes, hfile, rfl, hway⟩ := (file_mem_sightings_iff hproper).mp ha
      exact ⟨below, bytes, hfile, rfl, haccepts, hway⟩
    · rintro ⟨below, bytes, hfile, rfl, haccepts, hway⟩
      refine ⟨_, (file_mem_sightings_iff hproper).mpr ?_, rfl, haccepts⟩
      exact ⟨below, bytes, hfile, rfl, hway⟩
  · rw [List.pairwise_filterMap]
    apply (ascending_sightings hproper hne).imp
    intro a b hab f hf g hg
    obtain ⟨rfl, _⟩ := accepted?_eq_some_iff.mp hf
    obtain ⟨rfl, _⟩ := accepted?_eq_some_iff.mp hg
    exact hab
  · simp only [List.mem_filterMap, ← hreached]
    constructor
    · rintro ⟨a, ha, he⟩
      cases a with
      | file => cases he
      | trouble path t =>
        obtain ⟨below, es, hdir, rfl, hway, ht⟩ := (trouble_mem_sightings_iff hproper).mp ha
        exact ⟨below, es, t, hdir, hway, ht, he⟩
    · rintro ⟨below, es, t, hdir, hway, ht, he⟩
      exact ⟨_, (trouble_mem_sightings_iff hproper).mpr ⟨below, es, hdir, rfl, hway, ht⟩, he⟩

def styles : Bytes := Text.bytes "styles".toList

/-- Below `styles`: a directory with a file and a link, files whose names start alike, one of a name
that spells no text, and a directory that is locked. -/
def nested : List (Bytes × Node) := [
  (Text.bytes "a.css".toList, .file ByteArray.empty),
  (Text.bytes "a".toList, .dir [
    (Text.bytes "z.css".toList, .file ByteArray.empty),
    (Text.bytes "up".toList, .link (Text.bytes "..".toList))]),
  (0xFF :: Text.bytes ".css".toList, .file ByteArray.empty),
  (Text.bytes "a-b.css".toList, .file ByteArray.empty),
  (Text.bytes "locked".toList, .dir [(Text.bytes "b.css".toList, .file ByteArray.empty)])]

def nestedDisk : Disk where
  root := .dir [(styles, .dir nested)]
  refused place :=
    if place = [styles, Text.bytes "locked".toList] then some .permissionDenied else none

theorem proper_nested : nestedDisk.root.Proper := by
  simp only [nestedDisk, nested, Node.proper_dir_cons, Node.proper_dir_nil, Node.Proper.file,
    Node.Proper.link]
  decide

theorem locate_styles {d : Disk} {path : Path} (hpath : Disk.Readable path)
    (hsteps : Disk.steps path = [styles] ∨ Disk.steps path = [styles, [Path.dot]])
    (hhere : d.here = []) {entries : List (Bytes × Node)}
    (hroot : d.root = .dir [(styles, .dir entries)]) :
    d.locate .follow path = .ok [styles] := by
  refine Disk.locate_eq_ok_iff.mpr ⟨hpath, ?_⟩
  have horigin : d.origin path = [] := by rw [Disk.origin, hhere, ite_self]
  have hdir : (Node.dir [(styles, .dir entries)]).kindAt [styles] = some .dir := rfl
  have hstep : Disk.IsStep styles := ⟨by decide, by decide, by decide⟩
  rw [horigin, hroot]
  rcases hsteps with hsteps | hsteps
  · rw [hsteps]
    exact .down rfl hstep hdir (by simp) .done
  · rw [hsteps]
    exact .down rfl hstep hdir (by simp) (.here hdir .done)

theorem styleFiles_exact_nested :
    nestedDisk.root.Proper ∧ nestedDisk.locate .follow styles = .ok [styles] ∧
      nestedDisk.root.get? [styles] = some (.dir nested) ∧
      ∃ files, (styleFiles nestedDisk .default styles).result = .ok files ∧
        (∀ f, f ∈ files ↔ ∃ below bytes, (Node.dir nested).get? below = some (.file bytes) ∧
          f = ⟨Path.below styles below, Path.below [] below⟩ ∧
          Filter.default.accepts f.path = true ∧
          ∀ dir, dir <+: below → dir ≠ below →
            (Path.below styles dir).length ≤ Disk.maxPath ∧
              nestedDisk.refused ([styles] ++ dir) = none) ∧
        (files.Pairwise fun f g => Path.sortKey f.path < Path.sortKey g.path) ∧
        ∀ e, e ∈ (styleFiles nestedDisk .default styles).events ↔
          ∃ below es t, (Node.dir nested).get? below = some (.dir es) ∧
            (∀ dir, dir <+: below → dir ≠ below →
              (Path.below styles dir).length ≤ Disk.maxPath ∧
                nestedDisk.refused ([styles] ++ dir) = none) ∧
            refusal? nestedDisk.refused ([styles] ++ below) (Path.below styles below) = some t ∧
            warning? (.trouble (Path.below styles below) t) = some e := by
  have hlocate : nestedDisk.locate .follow styles = .ok [styles] :=
    locate_styles ⟨by decide, by decide, by decide⟩ (Or.inl rfl) rfl rfl
  exact ⟨proper_nested, hlocate, rfl, styleFiles_exact proper_nested .default hlocate rfl⟩

/-- The directory `styles`, with slashes behind its name. -/
def slashed (k : Nat) : Path := styles ++ List.replicate (k + 1) Path.slash

/-- Below `styles`: a directory with one file. -/
def deep : List (Bytes × Node) :=
  [(Text.bytes "a".toList, .dir [(Text.bytes "b.css".toList, .file ByteArray.empty)])]

def deepDisk : Disk where
  root := .dir [(styles, .dir deep)]

theorem slashed_eq (k : Nat) : slashed k = styles ++ List.replicate (k + 1) Path.slash := rfl

theorem slashed_ne_nil (k : Nat) : slashed k ≠ [] :=
  List.append_ne_nil_of_right_ne_nil _ (List.cons_ne_nil Path.slash (List.replicate k Path.slash))

theorem length_slashed (k : Nat) : (slashed k).length = k + 7 := by
  have hname : styles.length = 6 := rfl
  rw [slashed_eq, List.length_append, List.length_replicate, hname]
  omega

theorem steps_slashed (k : Nat) : Disk.steps (slashed k) = [styles, [Path.dot]] := by
  have hslashes (k : Nat) :
      (Text.pieces Path.slash (List.replicate k Path.slash)).filter (!·.isEmpty) = [] := by
    induction k with
    | zero => rfl
    | succ k ih => rw [List.replicate_succ, Text.pieces, if_pos rfl]; exact ih
  have hlast : slashed k = (styles ++ List.replicate k Path.slash) ++ [Path.slash] := by
    rw [slashed_eq, List.replicate_succ', List.append_assoc]
  have hends : Text.endsWith [Path.slash] (slashed k) = true := by
    rw [Text.endsWith, Text.before?_eq_some_iff.mpr hlast]
    rfl
  rw [Disk.steps, if_pos hends, slashed_eq, List.replicate_succ,
    Text.pieces_append_cons (by decide), List.filter_cons_of_pos (by decide), hslashes]
  rfl

theorem locate_slashed {k : Nat} (hk : k + 7 ≤ Disk.maxPath) :
    deepDisk.locate .follow (slashed k) = .ok [styles] := by
  have hreadable : Disk.Readable (slashed k) := by
    refine ⟨slashed_ne_nil k, ?_, by rw [length_slashed]; omega⟩
    rw [slashed_eq, List.mem_append, List.mem_replicate, not_or]
    exact ⟨by decide, fun h => absurd h.2 (by decide)⟩
  exact locate_styles hreadable (Or.inr (steps_slashed k)) rfl rfl

theorem accepts_slashed (k : Nat) :
    Filter.default.accepts
      (Path.below (slashed k) [Text.bytes "a".toList, Text.bytes "b.css".toList]) = true := by
  have hname : Path.fileName? (Path.below (slashed k)
      [Text.bytes "a".toList, Text.bytes "b.css".toList]) = some (Text.bytes "b.css".toList) := by
    rw [Path.below_cons, Path.below_cons, Path.below_nil,
      Path.fileName?_join (Path.join_ne_nil (slashed_ne_nil k) (by decide)) (by decide)]
  rw [Filter.accepts, Path.extension?, hname]
  decide

theorem styleFiles_slashed {k : Nat} (hk : k + 7 = Disk.maxPath) :
    (styleFiles deepDisk .default (slashed k)).result = .ok [] := by
  have hlong := Path.length_join (slashed_ne_nil k) (n := Text.bytes "a".toList) (by decide)
  have hname : (Text.bytes "a".toList).length = 1 := rfl
  rw [length_slashed, hk, hname] at hlong
  have hlong : Disk.maxPath < (Path.join (slashed k) (Text.bytes "a".toList)).length := hlong
  have hroot : refusal? deepDisk.refused [styles] (slashed k) = none := by
    rw [refusal?, length_slashed, hk, if_neg (Nat.lt_irrefl _)]
    rfl
  have hdir : refusal? deepDisk.refused ([styles] ++ [Text.bytes "a".toList])
      (Path.join (slashed k) (Text.bytes "a".toList)) = some .nameTooLong := if_pos hlong
  rw [styleFiles_of_locate _ (locate_slashed hk.le) rfl]
  simp only [deep, sightings, sightingsAmong, hroot, hdir, List.mergeSort_singleton,
    List.flatMap_cons, List.flatMap_nil, List.append_nil]
  rfl

/-- A file in a directory whose path is too long to be listed is not found. -/
theorem long_directory_unlisted :
    deepDisk.root.Proper ∧ deepDisk.locate .follow (slashed 4088) = .ok [styles] ∧
      deepDisk.root.get? [styles, Text.bytes "a".toList, Text.bytes "b.css".toList] =
        some (.file ByteArray.empty) ∧
      Filter.default.accepts
        (Path.below (slashed 4088) [Text.bytes "a".toList, Text.bytes "b.css".toList]) = true ∧
      (styleFiles deepDisk .default (slashed 4088)).result = .ok [] := by
  refine ⟨?_, locate_slashed (by decide), rfl, accepts_slashed 4088, styleFiles_slashed rfl⟩
  simp only [deepDisk, deep, Node.proper_dir_cons, Node.proper_dir_nil, Node.Proper.file]
  decide

end StyleGuide.Discovery
