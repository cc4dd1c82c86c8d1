import StyleGuide.Proofs.Block.Strict
import StyleGuide.Proofs.Comment.LastLine

namespace StyleGuide.Block

/-- The line without an asterisk in front and the space right after it. -/
def unstar : Text → Text
  | '*' :: rest => Text.dropStart [' '] rest
  | l => l

theorem undecorateLine_eq (line : Text) :
    undecorateLine line =
      Text.trim (Text.dropStop closing (unslash (unstar (Text.trim line)))) := rfl

/-- A slash with asterisks behind it, and nothing else. -/
def isOpener : Text → Bool
  | '/' :: '*' :: rest => rest.all (· = '*')
  | _ => false

/-- The line before its closing, without what decorates its front. -/
def bare (line : Text) : Text := unstar (Text.trimStart line)

theorem unstar_isSuffix (l : Text) : unstar l <:+ l := by
  unfold unstar
  split
  · next rest => exact (Text.dropStart_isSuffix _ rest).trans (List.suffix_cons _ rest)
  · exact List.suffix_refl l

theorem bare_isSuffix (line : Text) : bare line <:+ line :=
  (unstar_isSuffix _).trans (Text.trimStart_isSuffix line)

theorem undecorateLine_isInfix (line : Text) : undecorateLine line <:+: line := by
  rw [undecorateLine_eq]
  refine (Text.trim_infix _).trans ((Text.dropStop_isPrefix _ _).isInfix.trans ?_)
  refine ((unslash_isSuffix _).trans (unstar_isSuffix _)).isInfix.trans ?_
  exact Text.trim_infix line

theorem trim_append_closing (line : Text) :
    Text.trim (line ++ closing) = Text.trimStart line ++ closing := by
  have hclosing : closing.dropWhile Text.isBlank = closing := rfl
  have hstart : Text.trimStart (line ++ closing) = Text.trimStart line ++ closing := by
    rw [Text.trimStart, List.dropWhile_append, hclosing, Text.trimStart]
    split_ifs with hnil
    · rw [List.isEmpty_iff.mp hnil, List.nil_append]
    · rfl
  rw [Text.trim, hstart, Text.trimEnd_append (by decide) rfl]

theorem unstar_append_closing {l : Text} (h : l ≠ []) :
    unstar (l ++ closing) = unstar l ++ closing := by
  obtain ⟨c, l, rfl⟩ := List.exists_cons_of_ne_nil h
  by_cases hc : c = '*'
  · subst hc
    cases l with
    | nil => rfl
    | cons d l =>
      by_cases hd : d = ' '
      · simp [unstar, hd, Text.dropStart, Text.after?]
      · simp [unstar, Text.dropStart, Text.after?, Ne.symm hd]
  · simp [unstar, hc]

theorem unslash_append_closing (l : Text) :
    unslash (l ++ closing) =
      if isOpener l = true ∨ l = ['/'] then ['/'] else unslash l ++ closing := by
  cases l with
  | nil => rfl
  | cons c l =>
    by_cases hc : c = '/'
    · subst hc
      cases l with
      | nil => rfl
      | cons d l =>
        by_cases hd : d = '*'
        · subst hd
          have hend : closing.dropWhile (· = '*') = ['/'] := rfl
          have hopen : isOpener ('/' :: '*' :: l) = l.all (· = '*') := rfl
          change (l ++ closing).dropWhile (· = '*') = _
          rw [List.dropWhile_append, hend, hopen]
          by_cases hall : l.all (· = '*') = true
          · have hnil : l.dropWhile (· = '*') = [] := by simpa using hall
            simp [hall, hnil]
          · have hne : ¬ (l.dropWhile (· = '*')).isEmpty = true := by simpa using hall
            rw [if_neg hne, if_neg (by simp [hall])]
            rfl
        · simp [unslash, isOpener, hd]
    · simp [unslash, isOpener, hc]

theorem undecorateLine_append_closing {line : Text} (h : Text.trimStart line ≠ []) :
    undecorateLine (line ++ closing) =
      if isOpener (bare line) then ['/'] else Text.trim (unslash (bare line)) := by
  rw [undecorateLine_eq, trim_append_closing, unstar_append_closing h, ← bare,
    unslash_append_closing]
  by_cases hopen : isOpener (bare line) = true
  · rw [if_pos (Or.inl hopen), if_pos hopen]
    rfl
  · by_cases hslash : bare line = ['/']
    · rw [hslash]
      rfl
    · rw [if_neg (by simp [hopen, hslash]), Text.dropStop_append, if_neg hopen]

theorem unstar_trimEnd {l : Text} (h : ∀ c ∈ l.head?, Text.isBlank c = false) :
    unstar (Text.trimEnd l) = Text.trimEnd (unstar l) := by
  cases l with
  | nil => rfl
  | cons c l =>
    have hc : Text.isBlank c = false := h c rfl
    rw [Text.trimEnd_cons, if_neg (by simp [hc])]
    by_cases hstar : c = '*'
    · subst hstar
      exact dropStart_trimEnd l
    · simp [unstar, hstar, Text.trimEnd_cons, hc]

theorem unslash_trimEnd (l : Text) : unslash (Text.trimEnd l) = Text.trimEnd (unslash l) := by
  by_cases h : ['/', '*'] <+: l
  · obtain ⟨rest, rfl⟩ := h
    have hslash : Text.isBlank '/' = false := rfl
    have hstar : Text.isBlank '*' = false := rfl
    have hend : Text.trimEnd (['/', '*'] ++ rest) = ['/', '*'] ++ Text.trimEnd rest := by
      simp [Text.trimEnd_cons, hslash, hstar]
    rw [hend]
    apply Text.trimEnd_dropWhile
    intro c hc
    rw [of_decide_eq_true hc]
    rfl
  · rw [unslash_eq_self h, unslash_eq_self]
    intro hslash
    exact h (hslash.trans (Text.trimEnd_isPrefix l))

theorem head?_trimStart (t : Text) : ∀ c ∈ (Text.trimStart t).head?, Text.isBlank c = false := by
  intro c hc
  have hstop := List.head?_dropWhile_not Text.isBlank t
  rw [← Text.trimStart, Option.mem_def.mp hc] at hstop
  simpa using hstop

theorem undecorateLine_bare {line : Text} (h : ¬ closing <:+: unslash (bare line)) :
    undecorateLine line = Text.trim (unslash (bare line)) := by
  have hbare : unslash (unstar (Text.trim line)) = Text.trimEnd (unslash (bare line)) := by
    rw [Text.trim, unstar_trimEnd (head?_trimStart line), unslash_trimEnd, bare]
  rw [undecorateLine_eq, hbare, Text.dropStop_of_not_suffix, Text.trim_trimEnd]
  intro hs
  exact h (hs.isInfix.trans (Text.trimEnd_isPrefix _).isInfix)

def kept (line : Text) : List Text := if isDelimiter line then [] else [undecorateLine line]

theorem undecorate_eq_flatMap (raw : Text) :
    undecorate raw = Text.joinLines ((Text.lines raw).flatMap kept) := by
  rw [undecorate]
  congr 1
  induction Text.lines raw with
  | nil => rfl
  | cons line ls ih =>
    rw [List.flatMap_cons, ← ih, kept]
    cases hd : isDelimiter line <;> simp [hd]

theorem mem_flatMap_kept {ls : List Text} {line : Text} (h : line ∈ ls.flatMap kept) :
    ∃ raw ∈ ls, line = undecorateLine raw := by
  obtain ⟨raw, hraw, hline⟩ := List.mem_flatMap.mp h
  rw [kept] at hline
  split_ifs at hline
  · cases hline
  · exact ⟨raw, hraw, List.mem_singleton.mp hline⟩

theorem trim_of_mem_flatMap_kept {ls : List Text} {line : Text} (h : line ∈ ls.flatMap kept) :
    Text.trim line = line := by
  obtain ⟨raw, _, rfl⟩ := mem_flatMap_kept h
  rw [undecorateLine_eq, Text.trim_trim]

theorem newline_not_mem_flatMap_kept {ls : List Text} (h : ∀ line ∈ ls, '\n' ∉ line) :
    ∀ line ∈ ls.flatMap kept, '\n' ∉ line := by
  intro line hline hmem
  obtain ⟨raw, hraw, rfl⟩ := mem_flatMap_kept hline
  exact h raw hraw ((undecorateLine_isInfix raw).subset hmem)

theorem unbroken_kept {t line : Text} (h : line ∈ (Text.lines t).flatMap kept) :
    Text.Unbroken line :=
  .of_trim (trim_of_mem_flatMap_kept h)
    (newline_not_mem_flatMap_kept (Text.newline_not_mem_lines t) line h)

/-- The lines kept of a line that reads as `x`; a blank one may be left out. -/
def KeptAs (x : Text) (ls : List Text) : Prop := ls = [x] ∨ ls = [] ∧ x = []

theorem keptAs_append_closing (line : Text) :
    KeptAs (if isOpener (bare line) then ['/'] else Text.trim (unslash (bare line)))
      (kept (line ++ closing)) := by
  by_cases hblank : Text.trimStart line = []
  · have hdelimiter : isDelimiter (line ++ closing) = true := by
      rw [isDelimiter, trim_append_closing, hblank]
      rfl
    refine Or.inr ⟨by rw [kept, if_pos hdelimiter], ?_⟩
    rw [bare, hblank]
    rfl
  · have hdelimiter : isDelimiter (line ++ closing) = false := by
      have hlast : Text.trimStart line ++ closing ≠ opening := by
        intro h
        have := congrArg List.getLast? h
        simp [closing, opening] at this
      simp [isDelimiter, trim_append_closing, hlast, hblank]
    left
    rw [kept, if_neg (by simp [hdelimiter]), undecorateLine_append_closing hblank]

theorem keptAs_bare {line : Text} (hbare : ¬ closing <:+: unslash (bare line))
    (hline : Text.trim line ≠ closing) :
    KeptAs (Text.trim (unslash (bare line))) (kept line) := by
  rw [KeptAs, ← undecorateLine_bare hbare, kept]
  split_ifs with hdelimiter
  · right
    simp only [isDelimiter, hline, decide_false, Bool.or_false, decide_eq_true_eq] at hdelimiter
    rw [undecorateLine_eq, hdelimiter]
    exact ⟨rfl, rfl⟩
  · exact Or.inl rfl

theorem kept_congr {line line' : Text} (h : Text.trim line = Text.trim line') :
    kept line = kept line' := by
  rw [kept, kept, isDelimiter, isDelimiter, undecorateLine_eq, undecorateLine_eq, h]

theorem kept_dropStop (line : Text) : kept (Text.dropStop ['\r'] line) = kept line :=
  kept_congr (Text.trim_dropStop rfl line)

theorem flatMap_kept_lines {t : Text} (hne : t ≠ []) (hend : ¬ ['\n'] <:+ t) :
    (Text.lines t).flatMap kept = (Text.pieces '\n' t).flatMap kept := by
  induction t using Text.pieceInduction '\n' with
  | last a ha => rw [Text.lines_of_not_mem ha hne, Text.pieces_of_not_mem ha]
  | more a b ha ih =>
    have hb : b ≠ [] := by
      rintro rfl
      exact hend (List.suffix_append a ['\n'])
    have hrest : ¬ ['\n'] <:+ b := fun h =>
      hend (h.trans ((List.suffix_cons _ b).trans (List.suffix_append _ _)))
    rw [Text.lines_append_cons ha, Text.pieces_append_cons ha, List.flatMap_cons,
      List.flatMap_cons, kept_dropStop, ih hb hrest]

theorem undecorate_eq_pieces {t : Text} (hend : ¬ ['\n'] <:+ t) :
    undecorate t = Text.joinLines ((Text.pieces '\n' t).flatMap kept) := by
  by_cases hne : t = []
  · subst hne
    rfl
  · rw [undecorate_eq_flatMap, flatMap_kept_lines hne hend]

theorem read_keptAs {ls xs : List Text} {x : Text} (h : ∀ line ∈ ls, Text.Unbroken line)
    (hx : KeptAs x xs) :
    Comment.read .drop (Text.joinLines (ls ++ xs)) =
      Comment.read .drop (Text.joinLines (ls ++ [x])) := by
  rcases hx with rfl | ⟨rfl, rfl⟩
  · rfl
  · rw [Comment.read_joinLines_concat_nil h, List.append_nil]

def lastLine (t : Text) : Text := t.rtakeWhile (· ≠ '\n')

theorem newline_not_mem_lastLine (t : Text) : '\n' ∉ lastLine t := by
  intro h
  simpa using List.mem_rtakeWhile_imp h

theorem exists_lastLine (t : Text) :
    ∃ front, t = front ++ lastLine t ∧ (front = [] ∨ front.getLast? = some '\n') := by
  refine ⟨t.rdropWhile (· ≠ '\n'), ?_, ?_⟩
  · rw [lastLine, List.rtakeWhile, List.rdropWhile, ← List.reverse_append,
      List.takeWhile_append_dropWhile, List.reverse_reverse]
  · by_cases hne : t.rdropWhile (· ≠ '\n') = []
    · exact Or.inl hne
    · right
      have hlast := List.rdropWhile_last_not _ _ hne
      rw [List.getLast?_eq_some_getLast hne]
      simpa using hlast

theorem undecorate_append_closing {front last : Text}
    (hfront : front = [] ∨ front.getLast? = some '\n') (hlast : '\n' ∉ last) :
    undecorate (front ++ last ++ closing) =
        Text.joinLines ((Text.lines front).flatMap kept ++ kept (last ++ closing)) ∧
      undecorate (front ++ last ++ '\n' :: closing) =
        Text.joinLines ((Text.lines front).flatMap kept ++ kept last) := by
  have hsame : Text.lines (last ++ closing) = [last ++ closing] := by
    apply Text.lines_of_not_mem
    · simp [hlast, closing]
    · simp [closing]
  have hapart : Text.lines (last ++ '\n' :: closing) = [Text.dropStop ['\r'] last, closing] := by
    rw [Text.lines_append_cons hlast]
    rfl
  have hclosing : kept closing = [] := rfl
  rw [undecorate_eq_flatMap, undecorate_eq_flatMap, List.append_assoc, List.append_assoc,
    Text.lines_append hfront, Text.lines_append hfront, hsame, hapart]
  simp [hclosing, kept_dropStop]

/-- Whether the closing would be read as the end of an opener: the line before it is, but for its
decoration, a slash with asterisks. -/
def swallowsClosing (t : Text) : Bool := isOpener (bare (lastLine t))

theorem unslash_of_isOpener {l : Text} (h : isOpener l = true) : unslash l = [] := by
  unfold isOpener at h
  split at h
  · simpa [unslash] using h
  · cases h

theorem lastLine_isSuffix {inside front : Text}
    (ht : opening ++ inside = front ++ lastLine (opening ++ inside))
    (hfront : front.getLast? = some '\n') : lastLine (opening ++ inside) <:+ inside := by
  rcases List.append_eq_append_iff.mp ht with ⟨x, hx, hinside⟩ | ⟨x, hx, _⟩
  · exact ⟨x, hinside.symm⟩
  · obtain ⟨g, rfl⟩ := List.getLast?_eq_some_iff.mp hfront
    have hmem : '\n' ∈ opening := by simp [hx]
    exact absurd hmem (by decide)

theorem closing_not_infix_lastLine {inside : Text} (h : ¬ closing <:+: inside) :
    ¬ closing <:+: unslash (bare (lastLine (opening ++ inside))) ∧
      Text.trim (lastLine (opening ++ inside)) ≠ closing := by
  obtain ⟨front, ht, hfront⟩ := exists_lastLine (opening ++ inside)
  rcases hfront with rfl | hfront
  · -- The block is a single line, and its opening goes with the decoration.
    rw [List.nil_append] at ht
    rw [← ht]
    constructor
    · change ¬ closing <:+: inside.dropWhile (· = '*')
      intro hcloses
      exact h (hcloses.trans (List.dropWhile_suffix _).isInfix)
    · have htrim : Text.trim (opening ++ inside) = '/' :: Text.trimEnd ('*' :: '*' :: inside) := by
        change Text.trimEnd ('/' :: '*' :: '*' :: inside) = _
        have hslash : Text.isBlank '/' = false := rfl
        rw [Text.trimEnd_cons, if_neg (by simp [hslash])]
      simp [htrim, closing]
  · have hsuffix := lastLine_isSuffix ht hfront
    constructor
    · intro hcloses
      have hbare := (unslash_isSuffix _).trans (bare_isSuffix (lastLine (opening ++ inside)))
      exact h (hcloses.trans (hbare.trans hsuffix).isInfix)
    · intro htrim
      apply h
      rw [← htrim]
      exact (Text.trim_infix _).trans hsuffix.isInfix

/-- The closing may stand behind the last line of a block or below it, unless what is before it
ends like an opener: then its slash is read as a line of the comment. -/
theorem read_closing_below_iff {source : Text} {b : Block} (hb : b ∈ all source) {t : Text}
    (ht : b.text = t ++ closing) :
    Comment.read .drop (undecorate (t ++ closing)) =
        Comment.read .drop (undecorate (t ++ '\n' :: closing)) ↔
      swallowsClosing t = false := by
  obtain ⟨inside, htext, hinside⟩ := inside_of_mem_all hb
  obtain rfl : t = opening ++ inside := List.append_cancel_right (ht.symm.trans htext)
  obtain ⟨hbare, hline⟩ := closing_not_infix_lastLine hinside
  rw [swallowsClosing]
  obtain ⟨front, hsplit, hfront⟩ := exists_lastLine (opening ++ inside)
  have hnewline := newline_not_mem_lastLine (opening ++ inside)
  obtain ⟨hbehind, hbelow⟩ := undecorate_append_closing hfront hnewline
  rw [← hsplit] at hbehind hbelow
  generalize lastLine (opening ++ inside) = last at *
  have hls : ∀ line ∈ (Text.lines front).flatMap kept, Text.Unbroken line :=
    fun line hmem => unbroken_kept hmem
  rw [hbehind, hbelow, read_keptAs hls (keptAs_append_closing last),
    read_keptAs hls (keptAs_bare hbare hline)]
  cases hopen : isOpener (bare last) with
  | false => simp
  | true =>
    have hblank : Text.trim (unslash (bare last)) = [] := by
      rw [unslash_of_isOpener hopen]
      rfl
    have hslash : Text.Unbroken ['/'] := ⟨by decide, by decide⟩
    have hlines : ∀ line ∈ (Text.lines front).flatMap kept ++ [['/']], Text.Unbroken line :=
      List.forall_mem_append.mpr ⟨hls, by simpa using hslash⟩
    have hread := Comment.read_joinLines_concat_iff hlines rfl (by simp)
    rw [if_pos rfl, hblank, Comment.read_joinLines_concat_nil hls, hread]
    decide

theorem read_closing_below_note :
    Comment.read .drop (undecorate ("/** a\n * @b /".toList ++ closing)) =
      Comment.read .drop (undecorate ("/** a\n * @b /".toList ++ '\n' :: closing)) := by
  have hmem : ⟨"/** a\n * @b /*/".toList, 3, false⟩ ∈ all "p; /** a\n * @b /*/ */".toList := by
    decide +kernel
  exact (read_closing_below_iff hmem rfl).mpr (by decide)

theorem banner_reads_closing :
    (∃ b ∈ all "/*****/".toList, b.text = "/****".toList ++ closing) ∧
      Comment.read .drop (undecorate ("/****".toList ++ closing)) = .ok ⟨some ⟨['/'], ∅⟩, []⟩ ∧
      Comment.read .drop (undecorate ("/****".toList ++ '\n' :: closing)) = .ok ⟨none, []⟩ ∧
      ¬ ∀ source, ∀ b ∈ all source, ∀ t, b.text = t ++ closing →
        Comment.read .drop (undecorate (t ++ closing)) =
          Comment.read .drop (undecorate (t ++ '\n' :: closing)) := by
  have hmem : ⟨"/*****/".toList, 0, true⟩ ∈ all "/*****/".toList := by decide +kernel
  have hbehind : Comment.read .drop (undecorate ("/****".toList ++ closing)) =
      .ok ⟨some ⟨['/'], ∅⟩, []⟩ := by rfl
  have hbelow : Comment.read .drop (undecorate ("/****".toList ++ '\n' :: closing)) =
      .ok ⟨none, []⟩ := by rfl
  refine ⟨⟨_, hmem, rfl⟩, hbehind, hbelow, ?_⟩
  intro h
  have hsame := h _ _ hmem "/****".toList rfl
  rw [hbehind, hbelow] at hsame
  simp at hsame

end StyleGuide.Block
