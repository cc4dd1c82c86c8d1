import StyleGuide.Proofs.Block.Closing

namespace StyleGuide

namespace Text

theorem joinLines_lines_sublist (t : Text) : (joinLines (lines t)).Sublist t := by
  induction t using pieceInduction '\n' with
  | last a ha =>
    by_cases hne : a = []
    · subst hne
      exact .slnil
    · rw [lines_of_not_mem ha hne]
      simp [joinLines, join]
  | more a b ha ih =>
    have hline := (dropStop_isPrefix ['\r'] a).sublist
    rw [lines_append_cons ha]
    by_cases hb : lines b = []
    · rw [hb]
      simpa [joinLines, join] using hline.trans (List.sublist_append_left a ('\n' :: b))
    · rw [joinLines_cons hb]
      exact hline.append (ih.cons_cons '\n')

end Text

namespace Block

open Text (byteSize)

theorem kept_cases (line : Text) : kept line = [] ∨ ∃ l, kept line = [l] ∧ l <:+: line := by
  rw [kept]
  split_ifs
  · exact Or.inl rfl
  · exact Or.inr ⟨_, rfl, undecorateLine_isInfix line⟩

theorem joinLines_kept_sublist (ls : List Text) :
    (Text.joinLines (ls.flatMap kept)).Sublist (Text.joinLines ls) := by
  induction ls with
  | nil => exact .slnil
  | cons line ls ih =>
    by_cases hls : ls = []
    · subst hls
      rcases kept_cases line with hline | ⟨l, hline, hl⟩
      · simp [hline, Text.joinLines, Text.join]
      · simpa [hline, Text.joinLines, Text.join] using hl.sublist
    · rw [List.flatMap_cons, Text.joinLines_cons hls]
      rcases kept_cases line with hline | ⟨l, hline, hl⟩
      · rw [hline, List.nil_append]
        exact ih.trans ((List.sublist_cons_self _ _).trans (List.sublist_append_right _ _))
      · rw [hline, List.singleton_append]
        by_cases hnil : ls.flatMap kept = []
        · simpa [hnil, Text.joinLines, Text.join] using
            hl.sublist.trans (List.sublist_append_left line _)
        · rw [Text.joinLines_cons hnil]
          exact hl.sublist.append (ih.cons_cons '\n')

/-- The permissive reading only takes characters away. -/
theorem undecorate_sublist (raw : Text) : (undecorate raw).Sublist raw := by
  rw [undecorate_eq_flatMap]
  exact (joinLines_kept_sublist _).trans (Text.joinLines_lines_sublist raw)

/-- What the permissive reading would take for decoration on a line without surrounding blanks. -/
def Decorated (line : Text) : Prop := ['*'] <+: line ∨ ['/', '*'] <+: line ∨ closing <:+ line

/-- A text that has a line behind its last newline, and no decoration on its lines. -/
def Settled (t : Text) : Prop := ¬ ['\n'] <:+ t ∧ ∀ line ∈ Text.pieces '\n' t, ¬ Decorated line

theorem unstar_eq_self_iff {l : Text} : unstar l = l ↔ ¬ ['*'] <+: l := by
  constructor
  · rintro h ⟨rest, rfl⟩
    have hlen := (Text.dropStart_isSuffix [' '] rest).length_le
    have hsame : Text.dropStart [' '] rest = '*' :: rest := h
    rw [hsame, List.length_cons] at hlen
    omega
  · intro h
    unfold unstar
    split
    · exact absurd ⟨_, rfl⟩ h
    · rfl

theorem unslash_eq_self_iff {l : Text} : unslash l = l ↔ ¬ ['/', '*'] <+: l := by
  constructor
  · rintro h ⟨rest, rfl⟩
    have hlen := (List.dropWhile_suffix (decide <| · = '*') (l := rest)).length_le
    have hsame : rest.dropWhile (decide <| · = '*') = '/' :: '*' :: rest := h
    rw [hsame, List.length_cons, List.length_cons] at hlen
    omega
  · exact unslash_eq_self

theorem dropStop_eq_self_iff {stop l : Text} (hne : stop ≠ []) :
    Text.dropStop stop l = l ↔ ¬ stop <:+ l := by
  constructor
  · rintro h ⟨front, rfl⟩
    rw [Text.dropStop_append, List.self_eq_append_right] at h
    exact hne h
  · exact Text.dropStop_of_not_suffix

theorem undecorateLine_eq_self_iff {line : Text} (h : Text.trim line = line) :
    undecorateLine line = line ↔ ¬ Decorated line := by
  rw [Decorated, not_or, not_or, ← unstar_eq_self_iff, ← unslash_eq_self_iff,
    ← dropStop_eq_self_iff (by decide), undecorateLine_eq, h]
  constructor
  · intro hline
    -- Each of the three steps can only shorten the line, so none of them does.
    have hstar := unstar_isSuffix line
    have hslash := unslash_isSuffix (unstar line)
    have hclose := Text.dropStop_isPrefix closing (unslash (unstar line))
    have htrim := (Text.trim_infix (Text.dropStop closing (unslash (unstar line)))).length_le
    rw [hline] at htrim
    have hunstar : unstar line = line :=
      hstar.eq_of_length_le (htrim.trans (hclose.length_le.trans hslash.length_le))
    rw [hunstar] at hslash hclose htrim
    have hunslash : unslash line = line := hslash.eq_of_length_le (htrim.trans hclose.length_le)
    rw [hunslash] at hclose htrim
    exact ⟨hunstar, hunslash, hclose.eq_of_length_le htrim⟩
  · rintro ⟨hstar, hslash, hclose⟩
    rw [hstar, hslash, hclose, h]

theorem kept_eq_self_iff {line : Text} (h : Text.trim line = line) :
    kept line = [line] ↔ ¬ Decorated line := by
  rw [← undecorateLine_eq_self_iff h, kept]
  constructor
  · intro hkept
    split_ifs at hkept
    simpa using hkept
  · intro hline
    have hdelimiter : isDelimiter line = false := by
      have hplain := (undecorateLine_eq_self_iff h).mp hline
      rw [isDelimiter, h, Bool.or_eq_false_iff, decide_eq_false_iff_not, decide_eq_false_iff_not]
      constructor
      · rintro rfl
        exact hplain (Or.inr (Or.inl ⟨['*'], rfl⟩))
      · rintro rfl
        exact hplain (Or.inl ⟨['/'], rfl⟩)
    rw [if_neg (by simp [hdelimiter]), hline]

theorem length_kept_le (line : Text) : (kept line).length ≤ 1 := by
  rcases kept_cases line with hline | ⟨l, hline, _⟩ <;> simp [hline]

theorem length_flatMap_kept_le (ls : List Text) : (ls.flatMap kept).length ≤ ls.length := by
  induction ls with
  | nil => exact le_rfl
  | cons line ls ih =>
    have hline := length_kept_le line
    rw [List.flatMap_cons, List.length_append, List.length_cons]
    omega

theorem flatMap_kept_eq_self_iff {ls : List Text} :
    ls.flatMap kept = ls ↔ ∀ line ∈ ls, kept line = [line] := by
  induction ls with
  | nil => simp
  | cons line ls ih =>
    rw [List.flatMap_cons, List.forall_mem_cons, ← ih]
    constructor
    · intro h
      rcases kept_cases line with hline | ⟨l, hline, _⟩
      · have hlen := length_flatMap_kept_le ls
        rw [hline, List.nil_append] at h
        rw [h, List.length_cons] at hlen
        omega
      · rw [hline, List.singleton_append, List.cons.injEq] at h
        obtain ⟨rfl, hls⟩ := h
        exact ⟨hline, hls⟩
    · rintro ⟨hline, hls⟩
      rw [hline, hls, List.singleton_append]

theorem not_newline_suffix_of_undecorate {t : Text} (h : undecorate t = t) : ¬ ['\n'] <:+ t := by
  rintro ⟨s, rfl⟩
  have hshort : (undecorate (s ++ ['\n'])).Sublist s := by
    rw [undecorate_eq_flatMap, Text.lines_concat_newline, List.flatMap_map]
    simp only [kept_dropStop]
    simpa only [Text.joinLines, Text.join_pieces] using
      joinLines_kept_sublist (Text.pieces '\n' s)
  have hlen := hshort.length_le
  rw [h, List.length_append, List.length_singleton] at hlen
  omega

theorem undecorate_eq_self_iff {t : Text}
    (htrim : ∀ line ∈ Text.pieces '\n' t, Text.trim line = line) :
    undecorate t = t ↔ Settled t := by
  have hkept : (Text.pieces '\n' t).flatMap kept = Text.pieces '\n' t ↔
      ∀ line ∈ Text.pieces '\n' t, ¬ Decorated line := by
    rw [flatMap_kept_eq_self_iff]
    exact forall₂_congr fun line hline => kept_eq_self_iff (htrim line hline)
  rw [Settled, ← hkept]
  constructor
  · intro h
    have hend := not_newline_suffix_of_undecorate h
    refine ⟨hend, ?_⟩
    rw [undecorate_eq_pieces hend] at h
    by_cases hnil : (Text.pieces '\n' t).flatMap kept = []
    · -- Then the text is empty, and its one line is kept.
      rw [hnil] at h
      obtain rfl : t = [] := h.symm
      decide
    · rw [← Text.pieces_joinLines hnil, h]
      exact newline_not_mem_flatMap_kept (Text.not_mem_pieces '\n' t)
  · rintro ⟨hend, hsame⟩
    rw [undecorate_eq_pieces hend, hsame]
    exact Text.join_pieces '\n' t

theorem trim_of_mem_pieces_undecorate {raw line : Text}
    (h : line ∈ Text.pieces '\n' (undecorate raw)) : Text.trim line = line := by
  rw [undecorate_eq_flatMap] at h
  by_cases hnil : (Text.lines raw).flatMap kept = []
  · rw [hnil] at h
    obtain rfl : line = [] := by simpa [Text.joinLines, Text.join, Text.pieces] using h
    rfl
  · rw [Text.pieces_joinLines hnil fun l hl => (unbroken_kept hl).1] at h
    exact trim_of_mem_flatMap_kept h

/-- A second reading changes nothing exactly if the first one left nothing that looks like
decoration, and else it takes more away. -/
theorem undecorate_undecorate_iff (raw : Text) :
    (undecorate (undecorate raw) = undecorate raw ↔ Settled (undecorate raw)) ∧
      ((undecorate (undecorate raw)).length < (undecorate raw).length ↔
        ¬ Settled (undecorate raw)) ∧
      (byteSize (undecorate (undecorate raw)) < byteSize (undecorate raw) ↔
        ¬ Settled (undecorate raw)) := by
  have hsame : undecorate (undecorate raw) = undecorate raw ↔ Settled (undecorate raw) :=
    undecorate_eq_self_iff fun _ => trim_of_mem_pieces_undecorate
  have hsub := undecorate_sublist (undecorate raw)
  have hlength : (undecorate (undecorate raw)).length < (undecorate raw).length ↔
      ¬ Settled (undecorate raw) := by
    rw [← hsame, ← hsub.length_eq]
    have hle := hsub.length_le
    omega
  refine ⟨hsame, hlength, ?_⟩
  rw [Text.byteSize_lt_iff_of_sublist hsub, hlength]

end Block

end StyleGuide
