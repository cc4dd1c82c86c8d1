import StyleGuide.Proofs.Catalogue.Assembly

namespace StyleGuide.Catalogue

/-- Records that compete for one place come in the same order in both lists. -/
structure SameGroups (rs ss : List Record) : Prop where
  plain : ∀ category name,
    rs.filter (fun r => topLevel category r && r.name = name) =
      ss.filter fun r => topLevel category r && r.name = name
  modifiers : ∀ category parent,
    rs.filter (modifies category parent) = ss.filter (modifies category parent)

theorem filter_topLevel_name (rs : List Record) (category name : Text) :
    (rs.filter (topLevel category)).filter (·.name = name) =
      rs.filter fun r => topLevel category r && r.name = name := by
  rw [List.filter_filter]
  simp only [Bool.and_comm]

theorem SameGroups.ranked_eq {rs ss : List Record} (h : SameGroups rs ss) (category : Text) :
    ranked rs category = ranked ss category := by
  have hrs := Text.stableSort_mergeSort Record.name (rs.filter (topLevel category))
  have hss := Text.stableSort_mergeSort Record.name (ss.filter (topLevel category))
  apply Text.eq_of_sorted_of_filter_eq hrs.sorted hss.sorted
  intro name
  rw [hrs.stable, hss.stable, filter_topLevel_name, filter_topLevel_name]
  exact h.plain category name

theorem any_topLevel (rs : List Record) (category : Text) :
    rs.any (topLevel category) = !(ranked rs category).isEmpty := by
  have hperm : (ranked rs category).Perm (rs.filter (topLevel category)) :=
    List.mergeSort_perm _ _
  rw [hperm.isEmpty_eq, Bool.eq_iff_iff]
  simp

theorem SameGroups.assemble_eq {rs ss : List Record} (h : SameGroups rs ss) :
    (assemble rs).2 = (assemble ss).2 := by
  apply Dict.ext_get?
  intro category
  rw [get?_assemble, get?_assemble, any_topLevel, any_topLevel, h.ranked_eq]
  simp only [h.modifiers]

theorem filter_eq_of_imp {p q : Record → Bool} {rs ss : List Record}
    (h : rs.filter q = ss.filter q) (hpq : ∀ r, p r = true → q r = true) :
    rs.filter p = ss.filter p := by
  have hboth (l : List Record) : (l.filter q).filter p = l.filter p := by
    rw [List.filter_filter]
    apply List.filter_congr
    intro r _
    cases hp : p r with
    | false => simp
    | true => simp [hpq r hp]
  rw [← hboth rs, h, hboth]

theorem isModifier_of_modifies {category parent : Text} {m : Record}
    (h : modifies category parent m = true) : m.isModifier = true := by
  simp only [modifies, Bool.and_eq_true, decide_eq_true_eq] at h
  simp [Record.isModifier, h.1]

theorem SameGroups.of_modifiers_apart {rs ss : List Record}
    (hmodifiers : rs.filter (·.isModifier) = ss.filter (·.isModifier))
    (hplain : rs.filter (!·.isModifier) = ss.filter (!·.isModifier)) : SameGroups rs ss := by
  constructor
  · intro category name
    apply filter_eq_of_imp hplain
    intro r hr
    simp only [topLevel, Bool.and_eq_true] at hr
    exact hr.1.1
  · intro category parent
    apply filter_eq_of_imp hmodifiers
    intro m hm
    exact isModifier_of_modifies hm

def categorised (r : Record) : Bool := r.isModifier || r.category?.isSome

theorem SameGroups.of_categorised {rs ss : List Record}
    (h : rs.filter categorised = ss.filter categorised) : SameGroups rs ss := by
  constructor
  · intro category name
    apply filter_eq_of_imp h
    intro r hr
    simp only [topLevel, Bool.and_eq_true, decide_eq_true_eq] at hr
    simp [categorised, hr.1.2]
  · intro category parent
    apply filter_eq_of_imp h
    intro m hm
    simp [categorised, isModifier_of_modifies hm]

/-- Two records that claim the same place. -/
def Compete (r s : Record) : Prop :=
  (∃ category, topLevel category r = true ∧ topLevel category s = true ∧ r.name = s.name) ∨
    ∃ category parent, modifies category parent r = true ∧ modifies category parent s = true

theorem filter_eq_of_one_path {p : Record → Bool} {rs ss : List Record}
    (hpaths : ∀ path, rs.filter (·.sourcePath = path) = ss.filter (·.sourcePath = path))
    (hone : ∀ r ∈ rs, ∀ s ∈ rs, p r = true → p s = true → r.sourcePath = s.sourcePath) :
    rs.filter p = ss.filter p := by
  have hmem : ∀ s ∈ ss, s ∈ rs := fun s hs => Text.mem_of_filter_eq hpaths hs
  by_cases hany : ∃ r ∈ rs, p r = true
  · obtain ⟨r, hr, hp⟩ := hany
    -- The whole group stands in the file of its first member.
    have hfile (l : List Record) (hl : ∀ s ∈ l, s ∈ rs) :
        l.filter p = (l.filter (·.sourcePath = r.sourcePath)).filter p := by
      rw [List.filter_filter]
      apply List.filter_congr
      intro s hs
      cases hps : p s with
      | false => simp
      | true => simp [hone s (hl s hs) r hr hps hp]
    rw [hfile rs fun s hs => hs, hpaths, ← hfile ss hmem]
  · have hnil (l : List Record) (hl : ∀ s ∈ l, s ∈ rs) : l.filter p = [] := by
      apply List.filter_eq_nil_iff.mpr
      intro s hs hps
      exact hany ⟨s, hl s hs, hps⟩
    rw [hnil rs fun s hs => hs, hnil ss hmem]

theorem SameGroups.of_interleaved {rs ss : List Record}
    (hpaths : ∀ path, rs.filter (·.sourcePath = path) = ss.filter (·.sourcePath = path))
    (hone : ∀ r ∈ rs, ∀ s ∈ rs, Compete r s → r.sourcePath = s.sourcePath) :
    SameGroups rs ss := by
  constructor
  · intro category name
    apply filter_eq_of_one_path hpaths
    intro r hr s hs hpr hps
    simp only [Bool.and_eq_true, decide_eq_true_eq] at hpr hps
    exact hone r hr s hs (Or.inl ⟨category, hpr.1, hps.1, hpr.2.trans hps.2.symm⟩)
  · intro category parent
    apply filter_eq_of_one_path hpaths
    intro r hr s hs hpr hps
    exact hone r hr s hs (Or.inr ⟨category, parent, hpr, hps⟩)

theorem assemble_depends_on_groups (rs ss : List Record) :
    (SameGroups rs ss → (assemble rs).2 = (assemble ss).2) ∧
      (rs.filter (·.isModifier) = ss.filter (·.isModifier) →
        rs.filter (!·.isModifier) = ss.filter (!·.isModifier) →
        (assemble rs).2 = (assemble ss).2) ∧
      ((∀ path, rs.filter (·.sourcePath = path) = ss.filter (·.sourcePath = path)) →
        (∀ r ∈ rs, ∀ s ∈ rs, Compete r s → r.sourcePath = s.sourcePath) →
        (assemble rs).2 = (assemble ss).2) ∧
      (rs.filter categorised = ss.filter categorised → (assemble rs).2 = (assemble ss).2) := by
  refine ⟨fun h => h.assemble_eq, ?_, ?_, ?_⟩
  · intro hmodifiers hplain
    exact (SameGroups.of_modifiers_apart hmodifiers hplain).assemble_eq
  · intro hpaths hone
    exact (SameGroups.of_interleaved hpaths hone).assemble_eq
  · intro h
    exact (SameGroups.of_categorised h).assemble_eq

def formsRecord (path : String) (params : List (String × String)) : Record where
  parameters := .ofList <| ("category".toList, .text "forms".toList) ::
    params.map fun p => (p.1.toList, .text p.2.toList)
  sourcePath := Text.bytes path.toList

def card : Record := formsRecord "a.css" [("name", "card")]

def link : Record := formsRecord "b.css" [("name", "link")]

def hover : Record := formsRecord "b.css" [("name", "hover"), ("modifies", "card")]

def loose : Record where
  parameters := .ofList [("name".toList, .text "card".toList)]
  sourcePath := Text.bytes "c.css".toList

theorem assemble_depends_on_groups_cards :
    (SameGroups [hover, link, card] [card, loose, link, hover] ∧
        (assemble [hover, link, card]).2 = (assemble [card, loose, link, hover]).2) ∧
      (assemble [hover, link, card]).2 = (assemble [link, card, hover]).2 ∧
      (assemble [hover, link, card]).2 = (assemble [card, hover, link]).2 ∧
      (assemble [hover, link, card]).2 = (assemble [hover, loose, link, card]).2 := by
  have hhover : hover.isModifier = true := by decide
  have hloose : loose.category? = none := by decide
  have hnames : card.name ≠ link.name := by decide
  have hplain : card.parent? = none ∧ link.parent? = none ∧ loose.parent? = none := by decide
  have hgroups : SameGroups [hover, link, card] [card, loose, link, hover] := by
    constructor
    · intro category name
      by_cases hcard : card.name = name
      · have hlink : link.name ≠ name := fun h => hnames (hcard.trans h.symm)
        simp [topLevel, List.filter_cons, hhover, hloose, hlink]
      · simp [topLevel, List.filter_cons, hhover, hloose, hcard]
    · intro category parent
      simp [modifies, List.filter_cons, hplain]
  have hpaths (path : Path) : [hover, link, card].filter (·.sourcePath = path) =
      [card, hover, link].filter (·.sourcePath = path) := by
    have hlink : link.sourcePath = hover.sourcePath := rfl
    have hcard : card.sourcePath ≠ hover.sourcePath := by decide
    by_cases hpath : hover.sourcePath = path
    · simp [hlink, ← hpath, hcard]
    · simp [List.filter_cons, hlink, hpath]
  have hone : ∀ r ∈ [hover, link, card], ∀ s ∈ [hover, link, card],
      Compete r s → r.sourcePath = s.sourcePath := by
    have hlink : link.sourcePath = hover.sourcePath := rfl
    intro r hr s hs h
    simp only [List.mem_cons, List.not_mem_nil, or_false] at hr hs
    rcases hr with rfl | rfl | rfl <;> rcases hs with rfl | rfl | rfl <;>
      simp_all [Compete, topLevel, modifies, Ne.symm hnames]
  exact ⟨⟨hgroups, (assemble_depends_on_groups _ _).1 hgroups⟩,
    (assemble_depends_on_groups _ _).2.1 (by decide) (by decide),
    (assemble_depends_on_groups _ _).2.2.1 hpaths hone,
    (assemble_depends_on_groups _ _).2.2.2 (by decide)⟩

end StyleGuide.Catalogue
