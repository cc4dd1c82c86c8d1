import Mathlib.Data.List.Forall2
import StyleGuide.Block.Decoration
import StyleGuide.Proofs.Block.Scanning
import StyleGuide.Proofs.Text.Lines

namespace StyleGuide.Block

/-- The second line is the first one without its decoration. -/
def Strips (line l : Text) : Prop :=
  ∃ rest, line = [' ', '*'] ++ rest ∧ l = Text.trimEnd (Text.dropStart [' '] rest)

/-- A block of the strict shape, with the lines between its delimiters as they are read. -/
structure Stripped (b : Block) (ls : List Text) : Prop where
  startsLine : b.startsLine = true
  lines : ∃ interior, Text.lines b.text = opening :: (interior ++ [' ' :: closing]) ∧
    List.Forall₂ Strips interior ls

theorem strictLine?_eq_some_iff {line l : Text} : strictLine? line = some l ↔ Strips line l := by
  rw [strictLine?, Option.map_eq_some_iff]
  simp only [Text.after?_eq_some_iff, Strips, eq_comm (b := l)]

theorem mapM_strictLine?_eq_some_iff {interior ls : List Text} :
    interior.mapM strictLine? = some ls ↔ List.Forall₂ Strips interior ls := by
  induction interior generalizing ls with
  | nil =>
    rw [List.forall₂_nil_left_iff]
    simp [eq_comm]
  | cons line interior ih =>
    rw [List.forall₂_cons_left_iff, List.mapM_cons]
    simp only [Option.bind_eq_bind, Option.bind_eq_some_iff, strictLine?_eq_some_iff, ih,
      Option.pure_def, Option.some.injEq]
    constructor
    · rintro ⟨l, hl, ls', hls, rfl⟩
      exact ⟨l, ls', hl, hls, rfl⟩
    · rintro ⟨l, ls', hl, hls, rfl⟩
      exact ⟨l, hl, ls', hls, rfl⟩

theorem strictLines?_eq_some_iff {lines ls : List Text} :
    strictLines? lines = some ls ↔
      ∃ interior, lines = opening :: (interior ++ [' ' :: closing]) ∧
        List.Forall₂ Strips interior ls := by
  constructor
  · intro h
    unfold strictLines? at h
    split at h
    · cases h
    · cases h
    · next first rest _ =>
      split_ifs at h with hshape
      obtain ⟨rfl, hlast⟩ := hshape
      obtain ⟨interior, rfl⟩ := List.getLast?_eq_some_iff.mp hlast
      rw [List.dropLast_concat, mapM_strictLine?_eq_some_iff] at h
      exact ⟨interior, rfl, h⟩
  · rintro ⟨interior, rfl, h⟩
    rw [strictLines?]
    · simp [mapM_strictLine?_eq_some_iff.mpr h]
    · simp

theorem undecorateStrict?_eq_some_iff {b : Block} {c : Text} :
    b.undecorateStrict? = some c ↔ ∃ ls, Stripped b ls ∧ c = Text.joinLines ls := by
  rw [undecorateStrict?]
  constructor
  · intro h
    split_ifs at h with hline
    obtain ⟨ls, hls, rfl⟩ := Option.map_eq_some_iff.mp h
    exact ⟨ls, ⟨hline, strictLines?_eq_some_iff.mp hls⟩, rfl⟩
  · rintro ⟨ls, ⟨hline, hls⟩, rfl⟩
    rw [if_pos hline, strictLines?_eq_some_iff.mpr hls, Option.map_some]

/-- The line without a slash in front and the asterisks right after it, if both are there. -/
def unslash : Text → Text
  | '/' :: '*' :: rest => rest.dropWhile (· = '*')
  | l => l

theorem unslash_isSuffix (l : Text) : unslash l <:+ l := by
  unfold unslash
  split
  · exact (List.dropWhile_suffix _).trans ((List.suffix_cons _ _).trans (List.suffix_cons _ _))
  · exact List.suffix_refl l

theorem unslash_eq_self {l : Text} (h : ¬ ['/', '*'] <+: l) : unslash l = l := by
  unfold unslash
  split
  · exact absurd ⟨_, rfl⟩ h
  · rfl

/-- Trailing blanks and the one space in front can be taken away in either order. -/
theorem dropStart_trimEnd (t : Text) :
    Text.dropStart [' '] (Text.trimEnd t) = Text.trimEnd (Text.dropStart [' '] t) := by
  cases t with
  | nil => rfl
  | cons c t =>
    by_cases hc : c = ' '
    · subst hc
      have hblank : Text.isBlank ' ' = true := rfl
      have hdrop (s : Text) : Text.dropStart [' '] (' ' :: s) = s := Text.dropStart_append [' '] s
      rw [Text.trimEnd_cons, hdrop]
      by_cases ht : Text.trimEnd t = []
      · rw [if_pos ⟨ht, hblank⟩, ht]
        rfl
      · rw [if_neg fun h => ht h.1, hdrop]
    · have hdrop (s : Text) : Text.dropStart [' '] (c :: s) = c :: s := by
        simp [Text.dropStart, Text.after?, Ne.symm hc]
      rw [hdrop, Text.trimEnd_cons]
      split_ifs
      · rfl
      · exact hdrop _

theorem Strips.trim {line l : Text} (h : Strips line l) :
    ∃ rest, Text.trim line = '*' :: rest ∧ Text.dropStart [' '] rest = l := by
  obtain ⟨rest, rfl, rfl⟩ := h
  have hstar : Text.isBlank '*' = false := rfl
  refine ⟨Text.trimEnd rest, ?_, dropStart_trimEnd rest⟩
  rw [List.cons_append, Text.trim_blank rfl, List.cons_append, List.nil_append, Text.trim,
    Text.trimStart_cons hstar, Text.trimEnd_cons, if_neg fun h => absurd h.2 (by simp [hstar])]

theorem Strips.isDelimiter {line l : Text} (h : Strips line l) (hclose : ¬ closing <:+: line) :
    isDelimiter line = false := by
  obtain ⟨rest, htrim, _⟩ := h.trim
  have hne : Text.trim line ≠ closing := by
    intro he
    apply hclose
    rw [← he]
    exact Text.trim_infix line
  rw [Block.isDelimiter]
  simp only [hne, decide_false, Bool.or_false]
  rw [htrim]
  simp [opening]

theorem Strips.within {line l : Text} (h : Strips line l) : l <:+: line := by
  obtain ⟨rest, htrim, rfl⟩ := h.trim
  have htrimmed : rest <:+: line := by
    apply (List.suffix_cons '*' rest).isInfix.trans
    rw [← htrim]
    exact Text.trim_infix line
  exact (Text.dropStart_isSuffix _ rest).isInfix.trans htrimmed

theorem Strips.undecorateLine {line l : Text} (h : Strips line l) (hclose : ¬ closing <:+: line) :
    undecorateLine line = Text.trim (unslash l) := by
  have hstop : Text.dropStop closing (unslash l) = unslash l := by
    apply Text.dropStop_of_not_suffix
    intro hs
    exact hclose ((hs.trans (unslash_isSuffix l)).isInfix.trans h.within)
  obtain ⟨rest, htrim, hl⟩ := h.trim
  rw [Block.undecorateLine, htrim]
  simp only [hl]
  rw [← hstop]
  rfl

theorem closing_not_infix_interior {inside : Text} (hinside : ¬ closing <:+: inside)
    {interior : List Text} {last : Text}
    (h : Text.lines (opening ++ inside ++ closing) = opening :: (interior ++ [last])) :
    ∀ line ∈ interior, ¬ closing <:+: line := by
  obtain ⟨a, b, htext, _, hfirst, hrest⟩ := Text.lines_eq_cons h (by simp)
  -- The first line holds the opening alone, so the break after it stands inside.
  obtain ⟨w, rfl⟩ : opening <+: a := hfirst ▸ Text.dropStop_isPrefix _ a
  rw [List.append_assoc, List.append_assoc, List.append_cancel_left_eq,
    List.append_eq_append_iff] at htext
  rcases htext with ⟨x, _, hx⟩ | ⟨x, rfl, hx⟩
  · have hmem : '\n' ∈ closing := by simp [hx]
    exact absurd hmem (by decide)
  · cases x with
    | nil => simp [closing] at hx
    | cons d x =>
      rw [List.cons_append, List.cons.injEq] at hx
      obtain ⟨rfl, rfl⟩ := hx
      intro line hline hclose
      have hlast : line ∈ (Text.lines (x ++ closing)).dropLast := by
        rw [hrest, List.dropLast_concat]
        exact hline
      have hx := Text.infix_of_mem_dropLast_lines (by decide) hlast
      apply hinside
      exact hclose.trans (hx.trans ((List.suffix_cons _ x).trans (List.suffix_append _ _)).isInfix)

theorem undecorate_interior {interior ls : List Text} (h : List.Forall₂ Strips interior ls)
    (hclose : ∀ line ∈ interior, ¬ closing <:+: line) :
    (interior.filter fun line => !isDelimiter line).map undecorateLine =
      ls.map fun l => Text.trim (unslash l) := by
  induction h with
  | nil => rfl
  | @cons line l interior ls hl _ ih =>
    have hline := hclose line List.mem_cons_self
    rw [List.filter_cons_of_pos (by simp [hl.isDelimiter hline]), List.map_cons, List.map_cons,
      hl.undecorateLine hline, ih fun m hm => hclose m (List.mem_cons_of_mem _ hm)]

/-- A block of the strict shape is read by the permissive reading line for line. -/
theorem Stripped.undecorate {source : Text} {b : Block} (hb : b ∈ all source) {ls : List Text}
    (h : Stripped b ls) :
    undecorate b.text = Text.joinLines (ls.map fun l => Text.trim (unslash l)) := by
  obtain ⟨inside, htext, hinside⟩ := inside_of_mem_all hb
  obtain ⟨interior, hlines, hstrips⟩ := h.lines
  have hclose := closing_not_infix_interior hinside (htext ▸ hlines)
  have hopen : isDelimiter opening = true := rfl
  have hlast : isDelimiter (' ' :: closing) = true := rfl
  rw [Block.undecorate, hlines]
  simp [hopen, hlast, undecorate_interior hstrips hclose]

/-- A line that both readings give alike. -/
def Flush (l : Text) : Prop := (∀ c ∈ l.head?, Text.isBlank c = false) ∧ ¬ ['/', '*'] <+: l

instance (l : Text) : Decidable (Flush l) :=
  decidable_of_iff (l.head?.all (!Text.isBlank ·) = true ∧ ¬ ['/', '*'] <+: l)
    (by cases l <;> simp [Flush])

theorem Strips.trim_unslash {line l : Text} (h : Strips line l) (hl : Flush l) :
    Text.trim (unslash l) = l := by
  have hstart : Text.trimStart l = l := by
    cases l with
    | nil => rfl
    | cons c l => exact Text.trimStart_cons (hl.1 c rfl) l
  obtain ⟨rest, _, rfl⟩ := h
  rw [unslash_eq_self hl.2, Text.trim, hstart, Text.trimEnd_trimEnd]

theorem map_trim_unslash {interior ls : List Text} (h : List.Forall₂ Strips interior ls)
    (hls : ∀ l ∈ ls, Flush l) : ls.map (fun l => Text.trim (unslash l)) = ls := by
  induction h with
  | nil => rfl
  | cons hl _ ih =>
    rw [List.map_cons, hl.trim_unslash (hls _ List.mem_cons_self),
      ih fun l hm => hls l (List.mem_cons_of_mem _ hm)]

theorem Stripped.undecorate_of_flush {source : Text} {b : Block} (hb : b ∈ all source)
    {ls : List Text} (h : Stripped b ls) (hls : ∀ l ∈ ls, Flush l) :
    Block.undecorate b.text = Text.joinLines ls := by
  obtain ⟨interior, _, hstrips⟩ := h.lines
  rw [h.undecorate hb, map_trim_unslash hstrips hls]

end StyleGuide.Block
