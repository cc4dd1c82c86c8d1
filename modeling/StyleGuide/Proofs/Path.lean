import StyleGuide.Path
import StyleGuide.Proofs.Text.Lines
import StyleGuide.Proofs.Text.Search

namespace StyleGuide.Path

@[simp] theorem dot_ne_slash : dot ≠ slash := by decide

/-- Whether bytes can be the name of something in a directory. -/
structure IsName (n : Bytes) : Prop where
  ne_nil : n ≠ []
  no_slash : slash ∉ n
  ne_here : n ≠ [dot]
  ne_parent : n ≠ [dot, dot]

instance (n : Bytes) : Decidable (IsName n) :=
  decidable_of_iff (n ≠ [] ∧ slash ∉ n ∧ n ≠ [dot] ∧ n ≠ [dot, dot])
    ⟨fun h => ⟨h.1, h.2.1, h.2.2.1, h.2.2.2⟩,
      fun h => ⟨h.ne_nil, h.no_slash, h.ne_here, h.ne_parent⟩⟩

theorem isAbsolute_of_not_prefix {p : Path} (h : ¬ [slash] <+: p) : isAbsolute p = false := by
  rw [isAbsolute, Text.startsWith, Text.after?_eq_none_iff.mpr h]
  rfl

theorem IsName.isAbsolute {n : Bytes} (h : IsName n) : isAbsolute n = false := by
  apply isAbsolute_of_not_prefix
  rintro ⟨rest, rfl⟩
  exact h.no_slash List.mem_cons_self

theorem IsName.isSilent {n : Bytes} (h : IsName n) : isSilent n = false := by
  simp [Path.isSilent, h.ne_nil, h.ne_here]

theorem IsName.component {n : Bytes} (h : IsName n) : component n = .name n := by
  rw [Path.component, if_neg h.ne_parent]

theorem join_eq {base p : Path} (hbase : base ≠ []) (hp : isAbsolute p = false) :
    (base.getLast? = some slash ∧ join base p = base ++ p) ∨ join base p = base ++ slash :: p := by
  rw [join, hp]
  cases hlast : base.getLast? with
  | none => exact absurd (List.getLast?_eq_none_iff.mp hlast) hbase
  | some c =>
    by_cases hc : c = slash
    · exact Or.inl ⟨hc ▸ rfl, if_pos hc⟩
    · exact Or.inr (if_neg hc)

theorem join_ne_nil {base : Path} {n : Bytes} (hbase : base ≠ []) (hn : IsName n) :
    join base n ≠ [] := by
  rcases join_eq hbase hn.isAbsolute with ⟨_, h⟩ | h
  · simp [h, hbase]
  · simp [h]

theorem length_join {base : Path} {n : Bytes} (hbase : base ≠ []) (hn : IsName n) :
    base.length + n.length ≤ (join base n).length := by
  rcases join_eq hbase hn.isAbsolute with ⟨_, h⟩ | h
  · rw [h, List.length_append]
  · rw [h, List.length_append, List.length_cons]
    omega

theorem splitFront_append {base more : Path} (hbase : base ≠ [])
    (h : base = [dot] → more.head? = some slash) :
    splitFront (base ++ more) = ((splitFront base).1, (splitFront base).2 ++ more) := by
  obtain ⟨c, rest, rfl⟩ := List.exists_cons_of_ne_nil hbase
  rw [List.cons_append, splitFront, splitFront]
  by_cases hslash : c = slash
  · rw [if_pos hslash, if_pos hslash]
  · rw [if_neg hslash, if_neg hslash]
    -- What follows the dot is the same, or the dot was the whole of the base.
    have hfollows : c = dot ∧ (rest ++ more = [] ∨ (rest ++ more).head? = some slash) ↔
        c = dot ∧ (rest = [] ∨ rest.head? = some slash) := by
      apply and_congr_right
      rintro rfl
      cases rest with
      | nil => simp [h rfl]
      | cons d rest => simp
    rw [if_congr hfollows rfl rfl]
    split <;> rfl

theorem front_append_rest (p : Path) : (splitFront p).1 ++ (splitFront p).2 = p := by
  fun_cases splitFront p with
  | case1 => rfl
  | case2 => rfl
  | case3 c rest _ h => rw [h.1, List.singleton_append]
  | case4 => rfl

theorem lastPieces_eq_cons {rest : Path} {piece : Bytes} {before : List Bytes}
    (h : lastPieces rest = piece :: before) :
    ∃ more, more.filter (fun piece => !isSilent piece) = [piece] ∧
      Text.pieces slash rest = (before.dropWhile isSilent).reverse ++ more := by
  rw [lastPieces] at h
  generalize hback : (Text.pieces slash rest).reverse = back at h
  have hsilent := List.head?_dropWhile_not isSilent back
  have hpieces := List.takeWhile_append_dropWhile (p := isSilent) (l := back)
  have hbefore := List.takeWhile_append_dropWhile (p := isSilent) (l := before)
  rw [h] at hsilent hpieces
  refine ⟨(before.takeWhile isSilent).reverse ++ piece :: (back.takeWhile isSilent).reverse,
    ?_, ?_⟩
  · have hnone (ps : List Bytes) :
        (ps.takeWhile isSilent).reverse.filter (fun piece => !isSilent piece) = [] := by
      rw [List.filter_eq_nil_iff]
      intro p hp
      simp [List.mem_takeWhile_imp (List.mem_reverse.mp hp)]
    have hpiece : isSilent piece = false := by simpa using hsilent
    rw [List.filter_append, hnone, List.filter_cons_of_pos (by simp [hpiece]), hnone,
      List.nil_append]
  calc Text.pieces slash rest
      = (back.takeWhile isSilent ++ piece :: before).reverse := by
        rw [hpieces, ← hback, List.reverse_reverse]
    _ = before.reverse ++ piece :: (back.takeWhile isSilent).reverse := by simp
    _ = (before.takeWhile isSilent ++ before.dropWhile isSilent).reverse ++
        piece :: (back.takeWhile isSilent).reverse := by rw [hbefore]
    _ = _ := by rw [List.reverse_append, List.append_assoc]

theorem front_cases (p : Path) :
    (splitFront p).1 = [] ∨ (splitFront p).1 = [slash] ∨ (splitFront p).1 = [dot] ∧
      ((splitFront p).2 = [] ∨ ∃ s, (splitFront p).2 = slash :: s) := by
  fun_cases splitFront p with
  | case1 => exact Or.inl rfl
  | case2 => exact Or.inr (Or.inl rfl)
  | case3 c rest _ h => exact Or.inr (Or.inr ⟨rfl, h.2.imp_right List.head?_eq_some_iff.mp⟩)
  | case4 => exact Or.inl rfl

/-- The path without its last component stands in front of the path, and a name follows. -/
theorem parent?_eq_some {p q : Path} (h : parent? p = some q) (hq : q ≠ []) :
    ∃ s, (p = q ++ slash :: s ∨ q = [slash] ∧ p = q ++ s) ∧
      ∃ name ∈ Text.pieces slash s, name ≠ [] := by
  have hp := front_append_rest p
  have hfront := front_cases p
  rw [parent?] at h
  simp only at h
  generalize (splitFront p).1 = front at h hp hfront
  generalize (splitFront p).2 = rest at h hp hfront
  split at h
  · next piece before hlast =>
    obtain rfl := Option.some.inj h
    obtain ⟨more, hmore, hpieces⟩ := lastPieces_eq_cons hlast
    obtain ⟨hmem, hsilent⟩ := List.mem_filter.mp (hmore ▸ List.mem_singleton_self piece)
    have hpiece : piece ∈ Text.pieces slash rest := by simp [hpieces, hmem]
    obtain ⟨c, hc⟩ : ∃ c, c ∈ piece := List.exists_mem_of_ne_nil piece (by
      rintro rfl
      cases hsilent)
    have hslash : c ≠ slash := by
      rintro rfl
      exact Text.not_mem_pieces slash rest piece hpiece hc
    have hname {s : Path} (hs : c ∈ s) : ∃ name ∈ Text.pieces slash s, name ≠ [] := by
      obtain ⟨name, hname, hcname⟩ := Text.exists_mem_pieces hs hslash
      exact ⟨name, hname, List.ne_nil_of_mem hcname⟩
    have hrest : c ∈ rest := Text.join_pieces slash rest ▸ Text.mem_join hpiece hc
    generalize hkept : (before.dropWhile isSilent).reverse = kept at hpieces hq
    by_cases hnil : kept = []
    · subst hnil
      rcases hfront with rfl | rfl | ⟨rfl, rfl | ⟨s, rfl⟩⟩
      · exact absurd rfl hq
      · exact ⟨rest, Or.inr ⟨rfl, hp.symm⟩, hname hrest⟩
      · cases hrest
      · exact ⟨s, Or.inl hp.symm, hname ((List.mem_cons.mp hrest).resolve_left hslash)⟩
    · refine ⟨Text.join [slash] more, Or.inl ?_, hname (Text.mem_join hmem hc)⟩
      rw [← hp, ← Text.join_pieces slash rest, hpieces,
        Text.join_append hnil (List.ne_nil_of_mem hmem)]
      simp
  · split at h
    · exact absurd (Option.some.inj h).symm hq
    · cases h

/-- The pieces of a path that count. -/
def spoken (p : Path) : List Bytes := (Text.pieces slash p).filter fun piece => !isSilent piece

theorem spoken_append_slash (a b : Path) : spoken (a ++ slash :: b) = spoken a ++ spoken b := by
  rw [spoken, Text.pieces_append_sep, List.filter_append]
  rfl

theorem spoken_rest (p : Path) : spoken (splitFront p).2 = spoken p := by
  fun_cases splitFront p with
  | case1 => rfl
  | case2 rest => exact (spoken_append_slash [] rest).symm
  | case3 c rest _ h =>
    obtain ⟨rfl, rfl | hrest⟩ := h
    · rfl
    · obtain ⟨s, rfl⟩ := List.head?_eq_some_iff.mp hrest
      exact (spoken_append_slash [] s).trans (spoken_append_slash [dot] s).symm
  | case4 => rfl

theorem components_eq (p : Path) :
    components p = frontComponent (splitFront p).1 ++ (spoken p).map component := by
  rw [← spoken_rest]
  rfl

theorem isName_of_mem_spoken {p : Path} {piece : Bytes} (h : piece ∈ spoken p)
    (hparent : piece ≠ [dot, dot]) : IsName piece := by
  obtain ⟨hpiece, hsilent⟩ := List.mem_filter.mp h
  simp only [isSilent, Bool.not_or, Bool.and_eq_true, Bool.not_eq_eq_eq_not, Bool.not_true,
    decide_eq_false_iff_not] at hsilent
  exact ⟨hsilent.1, Text.not_mem_pieces slash p piece hpiece, hsilent.2, hparent⟩

/-- A path that begins with a piece, and not with a slash or a dot that stays in front. -/
def Inner (p : Path) : Prop := (splitFront p).1 = []

theorem inner_iff {p : Path} : Inner p ↔ .root ∉ components p ∧ .here ∉ components p := by
  have hpieces : ∀ c ∈ (spoken p).map component, c ≠ .root ∧ c ≠ .here := by
    intro c hc
    obtain ⟨piece, _, rfl⟩ := List.mem_map.mp hc
    rw [component]
    split_ifs <;> simp
  have hroot : .root ∉ (spoken p).map component := fun h => (hpieces _ h).1 rfl
  have hhere : .here ∉ (spoken p).map component := fun h => (hpieces _ h).2 rfl
  rw [Inner, components_eq, List.mem_append, List.mem_append, not_or, not_or]
  rcases front_cases p with h | h | ⟨h, _⟩ <;> simp [h, frontComponent, hroot, hhere]

theorem Inner.isAbsolute {p : Path} (h : Inner p) : isAbsolute p = false := by
  apply isAbsolute_of_not_prefix
  rintro ⟨rest, rfl⟩
  cases h

theorem splitFront_of_inner {p : Path} (h : Inner p) : splitFront p = ([], p) := by
  have hfront : (splitFront p).1 = [] := h
  have hp := front_append_rest p
  rw [hfront] at hp
  exact Prod.ext hfront hp

theorem Inner.components {p : Path} (h : Inner p) : components p = (spoken p).map component := by
  rw [components_eq, h]
  rfl

theorem IsName.spoken {n : Bytes} (h : IsName n) : spoken n = [n] := by
  rw [Path.spoken, Text.pieces_of_not_mem h.no_slash,
    List.filter_cons_of_pos (by simp [h.isSilent])]
  rfl

theorem IsName.inner {n : Bytes} (h : IsName n) : Inner n := by
  rcases front_cases n with hfront | hfront | ⟨hfront, hrest⟩
  · exact hfront
  · have hn := front_append_rest n
    rw [hfront] at hn
    exact absurd (hn ▸ List.mem_cons_self) h.no_slash
  · have hn := front_append_rest n
    rw [hfront] at hn
    rcases hrest with hrest | ⟨s, hrest⟩
    · rw [hrest] at hn
      exact absurd hn.symm h.ne_here
    · rw [hrest] at hn
      exact absurd (hn ▸ by simp) h.no_slash

theorem splitFront_join {base p : Path} (hbase : base ≠ []) (hp : Inner p) :
    (splitFront (join base p)).1 = (splitFront base).1 ∧
      ∃ before, Text.pieces slash (splitFront (join base p)).2 = before ++ Text.pieces slash p ∧
        before.filter (fun piece => !isSilent piece) = spoken base := by
  rw [← spoken_rest base]
  rcases join_eq hbase hp.isAbsolute with ⟨hlast, hjoin⟩ | hjoin
  · have hdot : base = [dot] → p.head? = some slash := by
      rintro rfl
      cases hlast
    rw [hjoin, splitFront_append hbase hdot]
    refine ⟨rfl, ?_⟩
    cases hrest : (splitFront base).2 with
    | nil => exact ⟨[], rfl, rfl⟩
    | cons c rest =>
      -- The slash at the end of the base is in the rest of it.
      rw [← front_append_rest base, hrest, List.getLast?_append_cons] at hlast
      obtain ⟨front, hfront⟩ := List.getLast?_eq_some_iff.mp hlast
      refine ⟨Text.pieces slash front, ?_, ?_⟩
      · rw [hfront, List.append_assoc, List.singleton_append, Text.pieces_append_sep]
      · rw [hfront]
        exact ((spoken_append_slash front []).trans (List.append_nil _)).symm
  · rw [hjoin, splitFront_append hbase fun _ => rfl]
    exact ⟨rfl, _, Text.pieces_append_sep _ _ _, rfl⟩

theorem components_join (base : Path) {p : Path} (hp : Inner p) :
    components (join base p) = components base ++ components p := by
  by_cases hbase : base = []
  · subst hbase
    rw [join, hp.isAbsolute]
    rfl
  · obtain ⟨hfront, before, hpieces, hbefore⟩ := splitFront_join hbase hp
    rw [components_eq (join base p), components_eq base, hfront, ← spoken_rest, spoken, hpieces,
      List.filter_append, hbefore, hp.components, List.map_append, List.append_assoc]
    rfl

theorem IsName.components {n : Bytes} (h : IsName n) : components n = [.name n] := by
  rw [h.inner.components, h.spoken, List.map_singleton, h.component]

theorem spoken_join {ps : List Bytes} (h : ∀ p ∈ ps, slash ∉ p) :
    spoken (Text.join [slash] ps) = ps.filter fun piece => !isSilent piece := by
  by_cases hps : ps = []
  · subst hps
    rfl
  · rw [spoken, Text.pieces_join hps, Text.flatMap_pieces_of_not_mem h]

theorem parent_of_inner {p : Path} (h : Inner p) :
    Inner ((parent? p).getD []) ∧ components ((parent? p).getD []) = (components p).dropLast := by
  simp only [parent?, splitFront_of_inner h]
  cases hlast : lastPieces p with
  | nil =>
    have hspoken : spoken p = [] := by
      rw [lastPieces, List.dropWhile_eq_nil_iff] at hlast
      rw [spoken, List.filter_eq_nil_iff]
      intro piece hpiece
      simp [hlast piece (List.mem_reverse.mpr hpiece)]
    rw [h.components, hspoken]
    exact ⟨rfl, rfl⟩
  | cons piece before =>
    obtain ⟨more, hmore, hpieces⟩ := lastPieces_eq_cons hlast
    simp only [List.nil_append, Option.getD_some]
    generalize (before.dropWhile isSilent).reverse = kept at hpieces
    have hkept : spoken (Text.join [slash] kept) = kept.filter fun piece => !isSilent piece := by
      apply spoken_join
      intro q hq
      apply Text.not_mem_pieces slash p
      rw [hpieces]
      exact List.mem_append_left _ hq
    have hinner : Inner (Text.join [slash] kept) := by
      by_cases hnil : Text.join [slash] kept = []
      · rw [hnil]
        rfl
      · have hne : kept ≠ [] := by
          rintro rfl
          exact hnil rfl
        have hsome : more ≠ [] := by
          rintro rfl
          cases hmore
        have hjoin := Text.join_pieces slash p
        rw [hpieces, Text.join_append hne hsome] at hjoin
        have hp : Text.join [slash] kept ++ slash :: Text.join [slash] more = p := hjoin
        have hfront := congrArg (fun t => (splitFront t).1) hp
        rw [splitFront_append hnil fun _ => rfl] at hfront
        exact hfront.trans h
    refine ⟨hinner, ?_⟩
    rw [hinner.components, h.components, hkept, spoken, hpieces, List.filter_append, hmore,
      List.map_append, List.map_singleton, List.dropLast_concat]

theorem fileName?_join {base : Path} {n : Bytes} (hbase : base ≠ []) (hn : IsName n) :
    fileName? (join base n) = some n := by
  obtain ⟨_, before, hpieces, _⟩ := splitFront_join hbase hn.inner
  rw [fileName?, lastPieces, hpieces, Text.pieces_of_not_mem hn.no_slash, List.reverse_concat,
    List.dropWhile_cons_of_neg]
  · exact if_neg hn.ne_parent
  · simp [hn.isSilent]

def below (base : Path) (place : List Bytes) : Path := place.foldl join base

@[simp] theorem below_nil (base : Path) : below base [] = base := rfl

@[simp] theorem below_cons (base : Path) (name : Bytes) (place : List Bytes) :
    below base (name :: place) = below (join base name) place := rfl

theorem components_below {base : Path} (hbase : base ≠ []) {place : List Bytes}
    (h : ∀ name ∈ place, IsName name) :
    components (below base place) = components base ++ place.map .name := by
  induction place generalizing base with
  | nil => simp
  | cons name place ih =>
    obtain ⟨hname, hplace⟩ := List.forall_mem_cons.mp h
    rw [below_cons, ih (join_ne_nil hbase hname) hplace, components_join base hname.inner,
      hname.components]
    simp

/-- What a path is sorted by: its components in turn. -/
def sortKey (p : Path) : List Bytes := (components p).map Component.write

theorem sortKey_below {base : Path} (hbase : base ≠ []) {place : List Bytes}
    (h : ∀ name ∈ place, IsName name) :
    sortKey (below base place) = sortKey base ++ place := by
  rw [sortKey, components_below hbase h, List.map_append, List.map_map]
  exact congrArg _ (List.map_id place)

end StyleGuide.Path
