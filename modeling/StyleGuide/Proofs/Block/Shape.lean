import StyleGuide.Proofs.Block.Printing
import StyleGuide.Proofs.Block.Strict

namespace StyleGuide.Block

open Text (OccursAt)

def LineEnd (e : Text) : Prop := e = ['\n'] ∨ e = ['\r', '\n']

/-- Lines with an asterisk in front, each with what stands behind the asterisk. -/
inductive Rows : List Text → Text → Prop
  | nil : Rows [] []
  | cons {x e rows : Text} {xs : List Text} (hx : '\n' ∉ x) (he : LineEnd e) (h : Rows xs rows) :
      Rows (x :: xs) ([' ', '*'] ++ x ++ e ++ rows)

/-- The text of a block of the strict shape, character by character. -/
def Shaped (xs : List Text) (t : Text) : Prop :=
  ∃ e rows, LineEnd e ∧ Rows xs rows ∧ t = opening ++ e ++ rows ++ ' ' :: closing

def content (x : Text) : Text := Text.trimEnd (Text.dropStart [' '] x)

theorem content_concat_return (x : Text) : content (x ++ ['\r']) = content x := by
  have hblank : ∀ c ∈ ['\r'], Text.isBlank c = true := List.forall_mem_singleton.mpr rfl
  rw [content, ← dropStart_trimEnd, Text.trimEnd_append_blank hblank, dropStart_trimEnd, content]

theorem strips_dropStop (x : Text) :
    Strips (Text.dropStop ['\r'] ([' ', '*'] ++ x)) (content x) := by
  by_cases hreturn : ['\r'] <:+ x
  · obtain ⟨y, rfl⟩ := hreturn
    rw [← List.append_assoc, Text.dropStop_append, content_concat_return]
    exact ⟨y, rfl, rfl⟩
  · have hline : ¬ ['\r'] <:+ [' ', '*'] ++ x := by
      rintro ⟨y, hy⟩
      rcases List.eq_nil_or_concat' x with rfl | ⟨z, c, rfl⟩
      · have hlast := congrArg List.getLast? hy
        simp at hlast
      · rw [← List.append_assoc] at hy
        obtain ⟨_, hc⟩ := List.append_inj' hy rfl
        exact hreturn ⟨z, by rw [hc]⟩
    rw [Text.dropStop_of_not_suffix hline]
    exact ⟨x, rfl, rfl⟩

theorem LineEnd.lines_append {e line : Text} (he : LineEnd e) (hline : '\n' ∉ line) (rest : Text) :
    ∃ first, Text.lines (line ++ e ++ rest) = first :: Text.lines rest ∧
      (first = line ∨ first = Text.dropStop ['\r'] line) := by
  rcases he with rfl | rfl
  · refine ⟨_, ?_, .inr rfl⟩
    rw [List.append_assoc, List.singleton_append, Text.lines_append_cons hline]
  · refine ⟨line, ?_, .inl rfl⟩
    have hsplit : line ++ ['\r', '\n'] ++ rest = (line ++ ['\r']) ++ '\n' :: rest := by simp
    rw [hsplit, Text.lines_append_cons (by simp [hline]), Text.dropStop_append]

theorem exists_lineEnd (a : Text) :
    ∃ e, LineEnd e ∧ a ++ ['\n'] = Text.dropStop ['\r'] a ++ e := by
  by_cases hreturn : ['\r'] <:+ a
  · obtain ⟨y, rfl⟩ := hreturn
    exact ⟨['\r', '\n'], .inr rfl, by rw [Text.dropStop_append, List.append_assoc]; rfl⟩
  · exact ⟨['\n'], .inl rfl, by rw [Text.dropStop_of_not_suffix hreturn]⟩

theorem Rows.lines {xs : List Text} {rows : Text} (h : Rows xs rows) :
    ∃ interior, Text.lines (rows ++ ' ' :: closing) = interior ++ [' ' :: closing] ∧
      List.Forall₂ Strips interior (xs.map content) := by
  induction h with
  | nil => exact ⟨[], Text.lines_of_not_mem (by decide) (by decide), .nil⟩
  | @cons x e rows xs hx he _ ih =>
    obtain ⟨interior, hlines, hstrips⟩ := ih
    have hline : '\n' ∉ [' ', '*'] ++ x := by simp [hx]
    obtain ⟨first, hfirst, hcases⟩ := he.lines_append hline (rows ++ ' ' :: closing)
    refine ⟨first :: interior, ?_, .cons ?_ hstrips⟩
    · rw [List.append_assoc, hfirst, hlines, List.cons_append]
    · rcases hcases with rfl | rfl
      · exact ⟨x, rfl, rfl⟩
      · exact strips_dropStop x

theorem Shaped.stripped {b : Block} {xs : List Text} (h : Shaped xs b.text)
    (hline : b.startsLine = true) : Stripped b (xs.map content) := by
  obtain ⟨e, rows, he, hrows, htext⟩ := h
  obtain ⟨interior, hlines, hstrips⟩ := hrows.lines
  have hopening : '\n' ∉ opening := by decide
  obtain ⟨first, hfirst, hcases⟩ := he.lines_append hopening (rows ++ ' ' :: closing)
  have hopen : first = opening := hcases.elim id id
  refine ⟨hline, interior, ?_, hstrips⟩
  rw [htext, List.append_assoc, hfirst, hlines, hopen]

theorem eq_of_lines_eq_singleton {t line : Text} (h : Text.lines t = [line])
    (hend : ¬ ['\n'] <:+ t) : t = line := by
  by_cases hn : '\n' ∈ t
  · obtain ⟨a, b, rfl, ha⟩ := List.eq_append_cons_of_mem hn
    rw [Text.lines_append_cons ha] at h
    obtain rfl := Text.lines_eq_nil_iff.mp (List.cons.inj h).2
    exact absurd ⟨a, rfl⟩ hend
  · have hne : t ≠ [] := by
      rintro rfl
      cases h
    rw [Text.lines_of_not_mem hn hne] at h
    exact (List.cons.inj h).1

theorem rows_of_lines {t : Text} {interior ls : List Text} (hend : ¬ ['\n'] <:+ t)
    (h : Text.lines t = interior ++ [' ' :: closing]) (hstrips : List.Forall₂ Strips interior ls) :
    ∃ xs rows, Rows xs rows ∧ t = rows ++ ' ' :: closing ∧ ls = xs.map content := by
  induction hstrips generalizing t with
  | nil => exact ⟨[], [], .nil, eq_of_lines_eq_singleton h hend, rfl⟩
  | @cons line l interior ls hl _ ih =>
    obtain ⟨a, rest, rfl, ha, hline, hrest⟩ := Text.lines_eq_cons h (by simp)
    obtain ⟨x, hx, rfl⟩ := hl
    obtain ⟨e, he, hae⟩ := exists_lineEnd a
    obtain ⟨xs, rows, hrows, rfl, rfl⟩ := ih (fun hsuffix => hend
      (hsuffix.trans ((List.suffix_cons _ _).trans (List.suffix_append _ _)))) hrest
    rw [← hline, hx] at hae
    have hxa : '\n' ∉ x := by
      intro hmem
      have hxline : x <:+ line := ⟨_, hx.symm⟩
      exact ha ((Text.dropStop_isPrefix _ a).subset (hline ▸ hxline.subset hmem))
    refine ⟨x :: xs, _, .cons hxa he hrows, ?_, rfl⟩
    rw [← hae]
    simp

theorem Stripped.shaped {b : Block} {ls : List Text} (h : Stripped b ls)
    (hclose : closing <:+ b.text) : ∃ xs, Shaped xs b.text ∧ ls = xs.map content := by
  obtain ⟨interior, hlines, hstrips⟩ := h.lines
  obtain ⟨a, rest, htext, _, hopen, hrest⟩ := Text.lines_eq_cons hlines (by simp)
  have hend : ¬ ['\n'] <:+ rest := by
    rintro ⟨front, rfl⟩
    obtain ⟨inside, hinside⟩ := hclose
    have hsplit : inside ++ ['*'] ++ ['/'] = a ++ '\n' :: front ++ ['\n'] := by
      simpa [closing] using hinside.trans htext
    exact absurd (List.append_inj' hsplit rfl).2 (by decide)
  obtain ⟨xs, rows, hrows, rfl, rfl⟩ := rows_of_lines hend hrest hstrips
  obtain ⟨e, he, hae⟩ := exists_lineEnd a
  refine ⟨xs, ⟨e, rows, he, hrows, ?_⟩, rfl⟩
  rw [hopen, ← hae, htext]
  simp

theorem Scanned.cutFrom {source : Text} {i : Nat} {bs : List Block} (h : Scanned source i bs) :
    ∀ b ∈ bs, CutFrom source b := by
  induction h with
  | done _ => simp
  | block hb _ _ _ ih => exact List.forall_mem_cons.mpr ⟨hb, ih⟩

theorem undecorateStrict?_of_mem_all {source : Text} {b : Block} (hb : b ∈ all source) {c : Text} :
    b.undecorateStrict? = some c ↔
      b.startsLine = true ∧ ∃ xs, Shaped xs b.text ∧ c = Text.joinLines (xs.map content) := by
  obtain ⟨inside, htext, _⟩ := inside_of_mem_all hb
  have hclose : closing <:+ b.text := ⟨opening ++ inside, htext.symm⟩
  rw [undecorateStrict?_eq_some_iff]
  constructor
  · rintro ⟨ls, hls, rfl⟩
    obtain ⟨xs, hxs, rfl⟩ := hls.shaped hclose
    exact ⟨hls.startsLine, xs, hxs, rfl⟩
  · rintro ⟨hline, xs, hxs, rfl⟩
    exact ⟨_, hxs.stripped hline, rfl⟩

/-- A block with the lines below each other, each behind a space, an asterisk and a space. -/
def starred (ls : List Text) : Text :=
  opening ++ ['\n'] ++ ls.flatMap (fun line => [' ', '*', ' '] ++ line ++ ['\n']) ++ ' ' :: closing

theorem starred_eq (ls : List Text) :
    starred ls = opening ++ inside (ls.map ([' ', '*', ' '] ++ ·)) ++ closing := by
  simp [starred, inside, List.flatMap_map]

theorem shaped_starred {ls : List Text} (h : ∀ line ∈ ls, '\n' ∉ line) :
    Shaped (ls.map (' ' :: ·)) (starred ls) := by
  refine ⟨['\n'], _, .inl rfl, ?_, rfl⟩
  induction ls with
  | nil => exact .nil
  | cons line ls ih =>
    obtain ⟨hline, hls⟩ := List.forall_mem_cons.mp h
    exact .cons (by simp [hline]) (.inl rfl) (ih hls)

theorem map_content_map_cons (ls : List Text) :
    (ls.map (' ' :: ·)).map content = ls.map Text.trimEnd := by
  rw [List.map_map]
  apply List.map_congr_left
  intro line _
  have hspace : Text.dropStart [' '] (' ' :: line) = line := Text.dropStart_append [' '] line
  rw [Function.comp_apply, content, hspace]

theorem all_starred {ls : List Text} (h : ∀ line ∈ ls, ¬ closing <:+: line) :
    all (starred ls) = [⟨starred ls, 0, true⟩] := by
  have hrows : ∀ row ∈ ls.map ([' ', '*', ' '] ++ ·), ¬ closing <:+: row := by
    rw [List.forall_mem_map]
    exact fun line hline => closing_not_infix_starred (h line hline)
  have hrest : starred ls =
      [] ++ (opening ++ inside (ls.map ([' ', '*', ' '] ++ ·)) ++ closing) ++ [] := by
    rw [List.nil_append, List.append_nil, starred_eq]
  obtain ⟨d, hnext, hd⟩ := @Cursor.next_inside ⟨starred ls, 0, true⟩ [] [] _ hrest hrows
    (by decide) (.inl ⟨rfl, rfl⟩)
  rw [← starred_eq] at hnext
  rw [all, Cursor.blocks_of_next hnext, Cursor.blocks_of_unopened (by simp [hd, opening])]
  rfl

theorem undecorateStrict?_exact (source : Text) :
    (∀ b ∈ all source, ∀ c, b.undecorateStrict? = some c ↔
      (b.offset = 0 ∨ ∃ i, i + 1 = b.offset ∧ OccursAt ['\n'] i source) ∧
        ∃ xs, Shaped xs b.text ∧ c = Text.joinLines (xs.map content)) ∧
      ∀ ls : List Text, (∀ line ∈ ls, '\n' ∉ line ∧ ¬ closing <:+: line) →
        all (starred ls) = [⟨starred ls, 0, true⟩] ∧
          undecorateStrict? ⟨starred ls, 0, true⟩ = some (Text.joinLines (ls.map Text.trimEnd)) := by
  constructor
  · intro b hb c
    rw [undecorateStrict?_of_mem_all hb, ((scanned_all source).cutFrom b hb).startsLine]
  · intro ls h
    have hall := all_starred fun line hline => (h line hline).2
    have hmem : ⟨starred ls, 0, true⟩ ∈ all (starred ls) := by
      rw [hall]
      exact List.mem_cons_self
    have hshaped := shaped_starred fun line hline => (h line hline).1
    refine ⟨hall, (undecorateStrict?_of_mem_all hmem).mpr ⟨rfl, _, hshaped, ?_⟩⟩
    rw [map_content_map_cons]

def returns : Text := "a\n/**\r\n *  b \r\n *\n */".toList

theorem undecorateStrict?_exact_returns :
    ⟨"/**\r\n *  b \r\n *\n */".toList, 2, true⟩ ∈ all returns ∧
      undecorateStrict? ⟨"/**\r\n *  b \r\n *\n */".toList, 2, true⟩ = some " b\n".toList ∧
      (∃ i, i + 1 = 2 ∧ OccursAt ['\n'] i returns) ∧
      (∃ xs, Shaped xs "/**\r\n *  b \r\n *\n */".toList ∧
        " b\n".toList = Text.joinLines (xs.map content)) ∧
      all (starred ["/ c\r".toList, [], "* ".toList]) =
        [⟨starred ["/ c\r".toList, [], "* ".toList], 0, true⟩] ∧
      undecorateStrict? ⟨starred ["/ c\r".toList, [], "* ".toList], 0, true⟩ =
        some "/ c\n\n*".toList := by
  have hmem : ⟨"/**\r\n *  b \r\n *\n */".toList, 2, true⟩ ∈ all returns := by decide +kernel
  have hread : undecorateStrict? ⟨"/**\r\n *  b \r\n *\n */".toList, 2, true⟩ =
      some " b\n".toList := by decide +kernel
  obtain ⟨hline, hshaped⟩ := ((undecorateStrict?_exact returns).1 _ hmem _).mp hread
  exact ⟨hmem, hread, hline.resolve_left (by decide), hshaped,
    (undecorateStrict?_exact returns).2 _ (by decide)⟩

end StyleGuide.Block
