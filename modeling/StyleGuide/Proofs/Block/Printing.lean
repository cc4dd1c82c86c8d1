import StyleGuide.Block.Decoration
import StyleGuide.Proofs.Block.Scanning
import StyleGuide.Proofs.Text.Lines

namespace StyleGuide.Block

def decorate (line : Text) : Text :=
  if line = [] then [' ', '*'] else [' ', '*', ' '] ++ line

/-- What stands between the delimiters of a block with these lines. -/
def inside (ls : List Text) : Text := ['\n'] ++ ls.flatMap (· ++ ['\n']) ++ [' ']

def print (ls : List Text) : Text := opening ++ inside (ls.map decorate) ++ closing

/-- A line that either reading of a block gives back as it was. -/
structure Content (line : Text) : Prop where
  trimmed : Text.trim line = line
  newline : '\n' ∉ line
  slash : ¬ ['/', '*'] <+: line
  closing : ¬ closing <:+: line

theorem trim_decorate {line : Text} (h : Text.trim line = line) :
    Text.trim (decorate line) = '*' :: if line = [] then [] else ' ' :: line := by
  by_cases hl : line = []
  · subst hl
    rfl
  · have hstart : Text.trimStart (decorate line) = ['*', ' '] ++ line := by
      rw [decorate, if_neg hl]
      rfl
    rw [Text.trim, hstart, Text.trimEnd_append hl (Text.trimEnd_of_trim h), if_neg hl]
    rfl

theorem Content.unbroken_decorate {line : Text} (h : Content line) :
    Text.Unbroken (decorate line) := by
  by_cases hl : line = []
  · subst hl
    exact ⟨by decide, by decide⟩
  · have hend := Text.trimEnd_append hl (Text.trimEnd_of_trim h.trimmed) [' ', '*', ' ']
    rw [decorate, if_neg hl]
    refine ⟨?_, Text.not_suffix_of_trimEnd hend rfl⟩
    simp [h.newline]

theorem closing_not_infix_starred {line : Text} (h : ¬ closing <:+: line) :
    ¬ closing <:+: [' ', '*', ' '] ++ line := by
  have hsplit : [' ', '*', ' '] ++ line = [' ', '*'] ++ ' ' :: line := rfl
  rw [hsplit, Text.infix_append_cons (by decide), not_or]
  exact ⟨by decide, h⟩

theorem Content.closing_decorate {line : Text} (h : Content line) :
    ¬ Block.closing <:+: decorate line := by
  by_cases hl : line = []
  · subst hl
    decide
  · rw [decorate, if_neg hl]
    exact closing_not_infix_starred h.closing

theorem Content.isDelimiter_decorate {line : Text} (h : Content line) :
    isDelimiter (decorate line) = false := by
  rw [isDelimiter, trim_decorate h.trimmed]
  by_cases hl : line = [] <;> simp [hl, opening, Block.closing]

theorem Content.undecorateLine_decorate {line : Text} (h : Content line) :
    undecorateLine (decorate line) = line := by
  rw [undecorateLine, trim_decorate h.trimmed]
  have hstop : Text.dropStop Block.closing line = line := by
    apply Text.dropStop_of_not_suffix
    intro hs
    exact h.closing hs.isInfix
  by_cases hl : line = []
  · subst hl
    rfl
  · have hspace : Text.dropStart [' '] (' ' :: line) = line := Text.dropStart_append [' '] line
    simp only [if_neg hl, hspace]
    split
    · exact absurd ⟨_, rfl⟩ h.slash
    · rw [hstop, h.trimmed]

theorem Content.strictLine?_decorate {line : Text} (h : Content line) :
    strictLine? (decorate line) = some line := by
  have hend := Text.trimEnd_of_trim h.trimmed
  by_cases hl : line = []
  · subst hl
    rfl
  · have hafter : Text.after? [' ', '*'] (decorate line) = some (' ' :: line) := by
      rw [decorate, if_neg hl]
      exact Text.after?_append [' ', '*'] (' ' :: line)
    have hspace : Text.dropStart [' '] (' ' :: line) = line := Text.dropStart_append [' '] line
    rw [strictLine?, hafter, Option.map_some, hspace, hend]

theorem lines_print {ls : List Text} (h : ∀ line ∈ ls, Content line) :
    Text.lines (print ls) = opening :: (ls.map decorate ++ [' ' :: closing]) := by
  have hprint : print ls =
      opening ++ '\n' :: ((ls.map decorate).flatMap (· ++ ['\n']) ++ ' ' :: closing) := by
    simp [print, inside]
  have hlast : Text.lines (' ' :: closing) = [' ' :: closing] :=
    Text.lines_of_not_mem (by decide) (by decide)
  have hopen : Text.Unbroken opening := ⟨by decide, by decide⟩
  rw [hprint, hopen.lines_append_cons, Text.lines_flatMap_append, hlast]
  intro line hline
  obtain ⟨l, hl, rfl⟩ := List.mem_map.mp hline
  exact (h l hl).unbroken_decorate

theorem undecorate_print {ls : List Text} (h : ∀ line ∈ ls, Content line) :
    undecorate (print ls) = Text.joinLines ls := by
  have hkeep : (ls.map decorate).filter (fun line => !isDelimiter line) = ls.map decorate := by
    apply List.filter_eq_self.mpr
    intro line hline
    obtain ⟨l, hl, rfl⟩ := List.mem_map.mp hline
    simp [(h l hl).isDelimiter_decorate]
  have hback : (ls.map decorate).map undecorateLine = ls := by
    rw [List.map_map]
    exact (List.map_congr_left fun l hl => (h l hl).undecorateLine_decorate).trans (List.map_id ls)
  have hopen : isDelimiter opening = true := rfl
  have hclose : isDelimiter (' ' :: closing) = true := rfl
  rw [undecorate, lines_print h]
  simp [hopen, hclose, hkeep, hback]

theorem strictLines?_print {ls : List Text} (h : ∀ line ∈ ls, Content line) :
    strictLines? (Text.lines (print ls)) = some ls := by
  have hback : (ls.map decorate).mapM strictLine? = some ls := by
    induction ls with
    | nil => rfl
    | cons line ls ih =>
      have hls := ih fun l hl => h l (List.mem_cons_of_mem _ hl)
      simp [List.mapM_cons, (h line List.mem_cons_self).strictLine?_decorate, hls]
  rw [lines_print h, strictLines?]
  · simp [hback]
  · simp

theorem closing_not_infix_inside {ls : List Text} (h : ∀ line ∈ ls, ¬ closing <:+: line) :
    ¬ closing <:+: inside ls ++ ['*'] := by
  have hlines : ¬ closing <:+: ls.flatMap (· ++ ['\n']) ++ [' ', '*'] := by
    induction ls with
    | nil => decide
    | cons line ls ih =>
      have hsplit : (line :: ls).flatMap (· ++ ['\n']) ++ [' ', '*'] =
          line ++ '\n' :: (ls.flatMap (· ++ ['\n']) ++ [' ', '*']) := by simp
      rw [hsplit, Text.infix_append_cons (by decide), not_or]
      exact ⟨h line List.mem_cons_self, ih fun l hl => h l (List.mem_cons_of_mem _ hl)⟩
  have hsplit : inside ls ++ ['*'] = [] ++ '\n' :: (ls.flatMap (· ++ ['\n']) ++ [' ', '*']) := by
    simp [inside]
  rw [hsplit, Text.infix_append_cons (by decide), not_or]
  exact ⟨by decide, hlines⟩

theorem opening_not_infix_gap {gap : Text} (h : ¬ opening <:+: gap)
    (hend : gap = [] ∨ gap.getLast? = some '\n') : ¬ opening <:+: gap ++ ['/', '*'] := by
  rcases hend with rfl | hend
  · decide
  · obtain ⟨g, rfl⟩ := List.getLast?_eq_some_iff.mp hend
    rw [Text.infix_append_cons (by decide), not_or] at h
    rw [List.append_assoc, List.singleton_append, Text.infix_append_cons (by decide), not_or]
    exact ⟨h.1, by decide⟩

namespace Cursor

theorem next_inside {c : Cursor} {gap rest : Text} {rows : List Text}
    (hrest : c.rest = gap ++ (opening ++ inside rows ++ closing) ++ rest)
    (h : ∀ row ∈ rows, ¬ closing <:+: row) (hgap : ¬ opening <:+: gap)
    (hend : gap = [] ∧ c.startsLine = true ∨ gap.getLast? = some '\n') :
    ∃ d, c.next = (some ⟨opening ++ inside rows ++ closing, c.offset + Text.byteSize gap, true⟩, d) ∧
      d.rest = rest := by
  have hopen : Text.cut? opening c.rest = some (gap, inside rows ++ closing ++ rest) := by
    have hsplit : c.rest = gap ++ opening ++ (inside rows ++ closing ++ rest) := by
      simp [hrest]
    rw [hsplit]
    exact Text.cut?_append (opening_not_infix_gap hgap (hend.imp_left And.left)) _
  have hclose : Text.cut? closing (inside rows ++ closing ++ rest) = some (inside rows, rest) :=
    Text.cut?_append (closing_not_infix_inside h) _
  rw [next, hopen]
  simp only [hclose]
  refine ⟨_, Prod.ext ?_ rfl, rfl⟩
  rcases hend with ⟨rfl, hc⟩ | hlast
  · simp [hc]
  · simp [hlast]

theorem next_print {c : Cursor} {gap rest : Text} {ls : List Text}
    (hrest : c.rest = gap ++ print ls ++ rest) (h : ∀ line ∈ ls, Content line)
    (hgap : ¬ opening <:+: gap)
    (hend : gap = [] ∧ c.startsLine = true ∨ gap.getLast? = some '\n') :
    ∃ b d, c.next = (some b, d) ∧ b.text = print ls ∧ b.startsLine = true ∧ d.rest = rest := by
  have hrows : ∀ row ∈ ls.map decorate, ¬ closing <:+: row := by
    rw [List.forall_mem_map]
    exact fun line hline => (h line hline).closing_decorate
  obtain ⟨d, hnext, hd⟩ := next_inside hrest hrows hgap hend
  exact ⟨_, d, hnext, rfl, rfl, hd⟩

end Cursor

end StyleGuide.Block
