import Mathlib.Data.List.DropRight
import StyleGuide.Proofs.Text.Search

namespace StyleGuide.Text

section Pieces

variable {α : Type}

theorem join_concat (sep p q : List α) (ps : List (List α)) :
    join sep (q :: ps ++ [p]) = join sep (q :: ps) ++ sep ++ p := by
  simp only [join]
  induction ps generalizing q with
  | nil => simp
  | cons r ps ih =>
    rw [List.cons_append, List.cons_append, List.intercalate_cons_cons, ← List.cons_append, ih,
      List.intercalate_cons_cons]
    simp

theorem join_cons_cons (sep p q : List α) (ps : List (List α)) :
    join sep (p :: q :: ps) = p ++ (sep ++ join sep (q :: ps)) := by
  rw [join, List.intercalate_cons_cons, List.append_assoc]
  rfl

theorem mem_join {sep p : List α} {ps : List (List α)} (hp : p ∈ ps) {c : α} (hc : c ∈ p) :
    c ∈ join sep ps := by
  induction ps with
  | nil => cases hp
  | cons q ps ih =>
    cases ps with
    | nil =>
      obtain rfl := List.mem_singleton.mp hp
      simpa [join] using hc
    | cons r ps =>
      rw [join_cons_cons, List.mem_append, List.mem_append]
      rcases List.mem_cons.mp hp with rfl | hp
      · exact Or.inl hc
      · exact Or.inr (Or.inr (ih hp))

theorem join_append {sep : List α} {ps qs : List (List α)} (hps : ps ≠ []) (hqs : qs ≠ []) :
    join sep (ps ++ qs) = join sep ps ++ (sep ++ join sep qs) := by
  induction ps with
  | nil => exact absurd rfl hps
  | cons p ps ih =>
    cases ps with
    | nil =>
      obtain ⟨q, qs, rfl⟩ := List.exists_cons_of_ne_nil hqs
      simp [join]
    | cons r ps =>
      rw [List.cons_append, List.cons_append, join_cons_cons, join_cons_cons, ← List.cons_append,
        ih (List.cons_ne_nil r ps)]
      simp

theorem not_mem_join {c : α} {sep : List α} (hsep : c ∉ sep) {ps : List (List α)}
    (h : ∀ p ∈ ps, c ∉ p) : c ∉ join sep ps := by
  induction ps with
  | nil => simp [join]
  | cons p ps ih =>
    obtain ⟨hp, hps⟩ := List.forall_mem_cons.mp h
    cases ps with
    | nil => simpa [join] using hp
    | cons q ps =>
      rw [join_cons_cons]
      simp only [List.mem_append, not_or]
      exact ⟨hp, hsep, ih hps⟩

variable [DecidableEq α]

theorem pieces_append_cons {sep : α} {a : List α} (h : sep ∉ a) (b : List α) :
    pieces sep (a ++ sep :: b) = a :: pieces sep b := by
  induction a with
  | nil => simp [pieces]
  | cons c a ih =>
    rw [List.mem_cons, not_or] at h
    rw [List.cons_append, pieces, if_neg (Ne.symm h.1), ih h.2]

theorem pieces_of_not_mem {sep : α} {t : List α} (h : sep ∉ t) : pieces sep t = [t] := by
  induction t with
  | nil => rfl
  | cons c t ih =>
    rw [List.mem_cons, not_or] at h
    rw [pieces, if_neg (Ne.symm h.1), ih h.2]

theorem pieces_ne_nil (sep : α) (t : List α) : pieces sep t ≠ [] := by
  cases t with
  | nil => simp [pieces]
  | cons c t =>
    rw [pieces]
    split
    · simp
    · split <;> simp

theorem join_pieces (sep : α) (t : List α) : join [sep] (pieces sep t) = t := by
  induction t with
  | nil => rfl
  | cons c t ih =>
    obtain ⟨p, ps, hp⟩ := List.exists_cons_of_ne_nil (pieces_ne_nil sep t)
    rw [pieces]
    split
    · next hc =>
      rw [hp, join_cons_cons, ← hp, ih, hc]
      rfl
    · rw [hp] at ih ⊢
      cases ps with
      | nil => simpa [join] using ih
      | cons q ps =>
        rw [join_cons_cons] at ih ⊢
        rw [List.cons_append, ih]

theorem not_mem_pieces (sep : α) (t : List α) : ∀ p ∈ pieces sep t, sep ∉ p := by
  induction t with
  | nil => simp [pieces]
  | cons c t ih =>
    rw [pieces]
    split_ifs with hc
    · simpa using ih
    · obtain ⟨p, ps, hp⟩ := List.exists_cons_of_ne_nil (pieces_ne_nil sep t)
      rw [hp] at ih ⊢
      simpa [Ne.symm hc] using ih

theorem exists_mem_pieces {sep c : α} {t : List α} (h : c ∈ t) (hc : c ≠ sep) :
    ∃ p ∈ pieces sep t, c ∈ p := by
  induction t with
  | nil => cases h
  | cons d t ih =>
    obtain ⟨p, ps, hp⟩ := List.exists_cons_of_ne_nil (pieces_ne_nil sep t)
    rcases List.mem_cons.mp h with rfl | h
    · exact ⟨c :: p, by simp [pieces, hc, hp], List.mem_cons_self⟩
    · obtain ⟨q, hq, hcq⟩ := ih h
      rw [pieces]
      split
      · exact ⟨q, List.mem_cons_of_mem _ hq, hcq⟩
      · rw [hp] at hq ⊢
        rcases List.mem_cons.mp hq with rfl | hq
        · exact ⟨d :: q, List.mem_cons_self, List.mem_cons_of_mem d hcq⟩
        · exact ⟨q, List.mem_cons_of_mem _ hq, hcq⟩

theorem pieces_append_sep (sep : α) (a b : List α) :
    pieces sep (a ++ sep :: b) = pieces sep a ++ pieces sep b := by
  induction a with
  | nil => simp [pieces]
  | cons c a ih =>
    rw [List.cons_append, pieces, pieces, ih]
    split_ifs with hc
    · rfl
    · obtain ⟨p, ps, hp⟩ := List.exists_cons_of_ne_nil (pieces_ne_nil sep a)
      simp [hp]

theorem pieceInduction (sep : α) {motive : List α → Prop} (last : ∀ a, sep ∉ a → motive a)
    (more : ∀ a b, sep ∉ a → motive b → motive (a ++ sep :: b)) (t : List α) : motive t := by
  induction hlen : t.length using Nat.strong_induction_on generalizing t with
  | _ n ih =>
    by_cases hs : sep ∈ t
    · obtain ⟨a, b, rfl, ha⟩ := List.eq_append_cons_of_mem hs
      simp only [List.length_append, List.length_cons] at hlen
      exact more a b ha (ih b.length (by omega) b rfl)
    · exact last t hs

theorem mem_pieces_of_mem_dropLast {sep : α} {s t line : List α} (hst : s <+: t)
    (h : line ∈ (pieces sep s).dropLast) : line ∈ pieces sep t := by
  obtain ⟨u, rfl⟩ := hst
  induction s using pieceInduction sep with
  | last a ha =>
    rw [pieces_of_not_mem ha] at h
    simp at h
  | more a b ha ih =>
    rw [pieces_append_cons ha, List.dropLast_cons_of_ne_nil (pieces_ne_nil sep b)] at h
    rw [List.append_assoc, List.cons_append, pieces_append_cons ha]
    rcases List.mem_cons.mp h with rfl | h
    · exact List.mem_cons_self
    · exact List.mem_cons_of_mem _ (ih h)

theorem pieces_join {sep : α} {ps : List (List α)} (hne : ps ≠ []) :
    pieces sep (join [sep] ps) = ps.flatMap (pieces sep) := by
  induction ps with
  | nil => exact absurd rfl hne
  | cons p ps ih =>
    cases ps with
    | nil => simp [join]
    | cons q ps =>
      rw [join_cons_cons, List.singleton_append, pieces_append_sep, ih (List.cons_ne_nil q ps)]
      rfl

theorem flatMap_pieces_of_not_mem {sep : α} {ls : List (List α)} (h : ∀ line ∈ ls, sep ∉ line) :
    ls.flatMap (pieces sep) = ls := by
  induction ls with
  | nil => rfl
  | cons line ls ih =>
    rw [List.flatMap_cons, pieces_of_not_mem (h line List.mem_cons_self),
      ih fun l hl => h l (List.mem_cons_of_mem _ hl), List.singleton_append]

end Pieces

theorem joinLines_cons {line : Text} {ls : List Text} (h : ls ≠ []) :
    joinLines (line :: ls) = line ++ '\n' :: joinLines ls := by
  rw [joinLines, join, List.intercalate_cons_of_ne_nil h, List.append_assoc]
  rfl

theorem joinLines_append {ls ms : List Text} (hls : ls ≠ []) (hms : ms ≠ []) :
    joinLines (ls ++ ms) = joinLines ls ++ '\n' :: joinLines ms := join_append hls hms

theorem joinLines_concat {ls : List Text} (h : ls ≠ []) (line : Text) :
    joinLines (ls ++ [line]) = joinLines ls ++ '\n' :: line := by
  obtain ⟨l, ls, rfl⟩ := List.exists_cons_of_ne_nil h
  rw [joinLines, join_concat, List.append_assoc]
  rfl

theorem pieces_joinLines_flatMap {ls : List Text} (hne : ls ≠ []) :
    pieces '\n' (joinLines ls) = ls.flatMap (pieces '\n') := pieces_join hne

theorem pieces_joinLines {ls : List Text} (hne : ls ≠ []) (h : ∀ line ∈ ls, '\n' ∉ line) :
    pieces '\n' (joinLines ls) = ls := by
  rw [pieces_joinLines_flatMap hne, flatMap_pieces_of_not_mem h]

theorem lines_append_cons {a : Text} (h : '\n' ∉ a) (b : Text) :
    lines (a ++ '\n' :: b) = dropStop ['\r'] a :: lines b := by
  have hne := pieces_ne_nil '\n' b
  simp only [lines, pieces_append_cons h]
  rw [List.dropLast_cons_of_ne_nil hne, List.getLast?_cons, List.map_cons]
  rcases List.eq_nil_or_concat (pieces '\n' b) with hb | ⟨ps, p, hb⟩
  · exact absurd hb hne
  · rw [hb]
    cases p <;> simp

theorem lines_of_not_mem {t : Text} (h : '\n' ∉ t) (hne : t ≠ []) : lines t = [t] := by
  simp only [lines, pieces_of_not_mem h]
  cases t with
  | nil => exact absurd rfl hne
  | cons c t => simp

theorem lines_eq_nil_iff {t : Text} : lines t = [] ↔ t = [] := by
  constructor
  · intro h
    by_contra hne
    by_cases hn : '\n' ∈ t
    · obtain ⟨a, b, rfl, ha⟩ := List.eq_append_cons_of_mem hn
      rw [lines_append_cons ha] at h
      cases h
    · rw [lines_of_not_mem hn hne] at h
      cases h
  · rintro rfl
    rfl

/-- Neither a newline nor a carriage return that would belong to a line end. -/
def Unbroken (line : Text) : Prop := '\n' ∉ line ∧ ¬ ['\r'] <:+ line

theorem Unbroken.lines_append_cons {a : Text} (h : Unbroken a) (b : Text) :
    lines (a ++ '\n' :: b) = a :: lines b := by
  rw [Text.lines_append_cons h.1, dropStop_of_not_suffix h.2]

theorem lines_joinLines {ls : List Text} (h : ∀ line ∈ ls, Unbroken line)
    (hlast : ∀ line ∈ ls.getLast?, line ≠ []) : lines (joinLines ls) = ls := by
  induction ls with
  | nil => rfl
  | cons line ls ih =>
    have hline := h line List.mem_cons_self
    by_cases hls : ls = []
    · subst hls
      simpa [joinLines, join] using lines_of_not_mem hline.1 (hlast line rfl)
    · have hrest := ih (fun l hl => h l (List.mem_cons_of_mem _ hl)) fun l hl => by
        apply hlast
        obtain ⟨m, ms, rfl⟩ := List.exists_cons_of_ne_nil hls
        simpa using hl
      rw [joinLines_cons hls, hline.lines_append_cons, hrest]

theorem lines_flatMap_append {ls : List Text} (h : ∀ line ∈ ls, Unbroken line) (t : Text) :
    lines (ls.flatMap (· ++ ['\n']) ++ t) = ls ++ lines t := by
  induction ls with
  | nil => rfl
  | cons line ls ih =>
    have hline := h line List.mem_cons_self
    rw [List.flatMap_cons, List.append_assoc, List.append_assoc, List.singleton_append,
      hline.lines_append_cons, ih fun l hl => h l (List.mem_cons_of_mem _ hl), List.cons_append]

theorem lines_joinLines_concat_nil {ls : List Text} (h : ∀ line ∈ ls, Unbroken line) :
    lines (joinLines (ls ++ [[]])) = ls := by
  have hjoin : joinLines (ls ++ [[]]) = ls.flatMap (· ++ ['\n']) := by
    clear h
    induction ls with
    | nil => rfl
    | cons line ls ih =>
      rw [List.cons_append, joinLines_cons (by simp), ih, List.flatMap_cons, List.append_assoc]
      rfl
  have hlines := lines_flatMap_append h []
  rwa [List.append_nil, ← hjoin, show lines [] = [] from rfl, List.append_nil] at hlines

theorem mem_of_mem_lines_joinLines {ls : List Text} (h : ∀ line ∈ ls, Unbroken line) {line : Text}
    (hline : line ∈ lines (joinLines ls)) : line ∈ ls := by
  rcases List.eq_nil_or_concat' ls with rfl | ⟨front, last, rfl⟩
  · exact hline
  · by_cases hlast : last = []
    · subst hlast
      rw [lines_joinLines_concat_nil fun l hl => h l (List.mem_append_left _ hl)] at hline
      exact List.mem_append_left _ hline
    · rwa [lines_joinLines h (by simp [hlast])] at hline

theorem lines_eq_cons {t first : Text} {rest : List Text} (h : lines t = first :: rest)
    (hrest : rest ≠ []) :
    ∃ a b, t = a ++ '\n' :: b ∧ '\n' ∉ a ∧ first = dropStop ['\r'] a ∧ lines b = rest := by
  by_cases hn : '\n' ∈ t
  · obtain ⟨a, b, rfl, ha⟩ := List.eq_append_cons_of_mem hn
    rw [lines_append_cons ha] at h
    obtain ⟨rfl, rfl⟩ := List.cons.inj h
    exact ⟨a, b, rfl, ha, rfl, rfl⟩
  · have hne : t ≠ [] := by
      rintro rfl
      cases h
    rw [lines_of_not_mem hn hne] at h
    exact absurd (List.cons.inj h).2.symm hrest

theorem newline_not_mem_lines (t : Text) : ∀ line ∈ lines t, '\n' ∉ line := by
  have hpieces := not_mem_pieces '\n' t
  have hended : ∀ line ∈ (pieces '\n' t).dropLast.map (dropStop ['\r']), '\n' ∉ line := by
    intro line hline hmem
    obtain ⟨p, hp, rfl⟩ := List.mem_map.mp hline
    exact hpieces p (List.mem_of_mem_dropLast hp) ((dropStop_isPrefix _ p).subset hmem)
  intro line hline
  simp only [lines] at hline
  split at hline
  · exact hended line hline
  · exact hended line hline
  · next rest _ hrest =>
    rcases List.mem_append.mp hline with h | h
    · exact hended line h
    · rw [List.mem_singleton.mp h]
      exact hpieces rest (List.mem_of_getLast? hrest)

theorem lines_concat_newline (t : Text) :
    lines (t ++ ['\n']) = (pieces '\n' t).map (dropStop ['\r']) := by
  simp [lines, pieces_append_sep, pieces]

theorem lines_append {front : Text} (h : front = [] ∨ front.getLast? = some '\n') (t : Text) :
    lines (front ++ t) = lines front ++ lines t := by
  rcases h with rfl | h
  · rfl
  · obtain ⟨g, rfl⟩ := List.getLast?_eq_some_iff.mp h
    have hne := pieces_ne_nil '\n' t
    rw [lines_concat_newline, List.append_assoc, List.singleton_append, lines, lines,
      pieces_append_sep]
    simp only [List.dropLast_append_of_ne_nil hne, List.getLast?_append_of_ne_nil _ hne,
      List.map_append]
    split <;> simp

theorem infix_of_mem_dropLast_lines {t s line : Text} (hs : '\n' ∉ s)
    (h : line ∈ (lines (t ++ s)).dropLast) : line <:+: t := by
  induction t using pieceInduction '\n' with
  | last a ha =>
    by_cases hnil : a ++ s = []
    · simp [hnil, lines, pieces] at h
    · rw [lines_of_not_mem (by simp [ha, hs]) hnil] at h
      simp at h
  | more a b ha ih =>
    rw [List.append_assoc, List.cons_append, lines_append_cons ha] at h
    by_cases hnil : lines (b ++ s) = []
    · simp [hnil] at h
    · rw [List.dropLast_cons_of_ne_nil hnil] at h
      rcases List.mem_cons.mp h with rfl | h
      · exact ((dropStop_isPrefix _ a).trans (List.prefix_append _ _)).isInfix
      · exact (ih h).trans ((List.suffix_cons _ _).trans (List.suffix_append _ _)).isInfix

theorem trimStart_isSuffix (t : Text) : trimStart t <:+ t := List.dropWhile_suffix _

theorem trimEnd_isPrefix (t : Text) : trimEnd t <+: t := by
  have h : t.reverse.dropWhile isBlank <:+ t.reverse := List.dropWhile_suffix _
  simpa [trimEnd] using List.reverse_prefix.mpr h

theorem trimStart_of_trim {t : Text} (h : trim t = t) : trimStart t = t := by
  apply (trimStart_isSuffix t).eq_of_length
  have hend := (trimEnd_isPrefix (trimStart t)).length_le
  have hstart := (trimStart_isSuffix t).length_le
  have hlen := congrArg List.length h
  rw [trim] at hlen
  omega

theorem trimEnd_of_trim {t : Text} (h : trim t = t) : trimEnd t = t := by
  have hend := h
  rw [trim, trimStart_of_trim h] at hend
  exact hend

theorem trimStart_cons {c : Char} (h : isBlank c = false) (t : Text) :
    trimStart (c :: t) = c :: t := by
  simp [trimStart, h]

@[simp] theorem trim_nil : trim [] = [] := rfl

theorem trim_blank {c : Char} (h : isBlank c = true) (t : Text) : trim (c :: t) = trim t := by
  simp [trim, trimStart, h]

theorem trimEnd_of_not_blank {t : Text} (h : ∀ c ∈ t, isBlank c = false) : trimEnd t = t := by
  rcases List.eq_nil_or_concat t with rfl | ⟨s, c, rfl⟩
  · rfl
  · simp [trimEnd, h c (by simp)]

theorem trimEnd_append {t : Text} (ht : t ≠ []) (h : trimEnd t = t) (s : Text) :
    trimEnd (s ++ t) = s ++ t := by
  have hrev : t.reverse.dropWhile isBlank = t.reverse := by
    rw [← List.reverse_inj, List.reverse_reverse]
    exact h
  rw [trimEnd, List.reverse_append, List.dropWhile_append, hrev]
  simp [ht]

theorem trimStart_append {t : Text} (ht : t ≠ []) (h : trimStart t = t) (s : Text) :
    trimStart (t ++ s) = t ++ s := by
  rw [trimStart, List.dropWhile_append, ← trimStart, h]
  simp [ht]

theorem trim_join {sep p : Text} {ps : List Text} (h : ∀ q ∈ p :: ps, q ≠ [] ∧ trim q = q) :
    join sep (p :: ps) ≠ [] ∧ trim (join sep (p :: ps)) = join sep (p :: ps) := by
  induction ps generalizing p with
  | nil => simpa [join] using h
  | cons q ps ih =>
    obtain ⟨⟨hne, htrim⟩, hrest⟩ := List.forall_mem_cons.mp h
    obtain ⟨hne', htrim'⟩ := ih hrest
    rw [join_cons_cons]
    refine ⟨by simp [hne], ?_⟩
    rw [trim, trimStart_append hne (trimStart_of_trim htrim), ← List.append_assoc,
      trimEnd_append hne' (trimEnd_of_trim htrim')]

theorem trimEnd_cons (c : Char) (t : Text) :
    trimEnd (c :: t) = if trimEnd t = [] ∧ isBlank c = true then [] else c :: trimEnd t := by
  rw [trimEnd, List.reverse_cons, List.dropWhile_append]
  by_cases ht : t.reverse.dropWhile isBlank = []
  · cases hc : isBlank c <;> simp [trimEnd, ht, hc]
  · simp [trimEnd, ht]

theorem trimEnd_trimEnd (t : Text) : trimEnd (trimEnd t) = trimEnd t := by
  simp [trimEnd, List.dropWhile_idempotent]

theorem trimStart_trimEnd (t : Text) : trimStart (trimEnd t) = trimEnd (trimStart t) := by
  induction t with
  | nil => rfl
  | cons c t ih =>
    rw [trimEnd_cons]
    cases hc : isBlank c with
    | false =>
      simp only [Bool.false_eq_true, and_false, ↓reduceIte]
      rw [trimStart_cons hc, trimStart_cons hc, trimEnd_cons]
      simp [hc]
    | true =>
      have hdrop (s : Text) : trimStart (c :: s) = trimStart s := by simp [trimStart, hc]
      rw [hdrop, ← ih]
      split_ifs with hend
      · rw [hend.1]
      · exact hdrop _

theorem trim_trimEnd (t : Text) : trim (trimEnd t) = trim t := by
  rw [trim, trimStart_trimEnd, trimEnd_trimEnd, trim]

theorem trim_trim (t : Text) : trim (trim t) = trim t := by
  have hstart : trimStart (trimStart t) = trimStart t := List.dropWhile_idempotent isBlank t
  rw [trim, trim, trimStart_trimEnd, hstart, trimEnd_trimEnd]

theorem trimEnd_append_blank {s : Text} (h : ∀ c ∈ s, isBlank c = true) (t : Text) :
    trimEnd (t ++ s) = trimEnd t := by
  rw [trimEnd, List.reverse_append, List.dropWhile_append_of_pos (by simpa using h), trimEnd]

theorem trim_dropStop {c : Char} (h : isBlank c = true) (t : Text) :
    trim (dropStop [c] t) = trim t := by
  rw [dropStop]
  cases hb : before? [c] t with
  | none => rfl
  | some front =>
    rw [Option.getD_some, before?_eq_some_iff.mp hb, ← trim_trimEnd (front ++ [c]),
      trimEnd_append_blank (by simpa using h), trim_trimEnd]

theorem trimEnd_dropWhile {p : Char → Bool} (hp : ∀ c, p c = true → isBlank c = false)
    (t : Text) : (trimEnd t).dropWhile p = trimEnd (t.dropWhile p) := by
  induction t with
  | nil => rfl
  | cons c t ih =>
    cases hc : p c with
    | true =>
      rw [trimEnd_cons, if_neg (by simp [hp c hc]), List.dropWhile_cons_of_pos hc, ih,
        List.dropWhile_cons_of_pos hc]
    | false =>
      rw [List.dropWhile_cons_of_neg (by simp [hc]), trimEnd_cons]
      split_ifs
      · rfl
      · exact List.dropWhile_cons_of_neg (by simp [hc])

theorem countP_trim (t : Text) : (trim t).countP (!isBlank ·) = t.countP (!isBlank ·) := by
  have hdrop (s : Text) : (s.dropWhile isBlank).countP (!isBlank ·) = s.countP (!isBlank ·) := by
    have hnone : (s.takeWhile isBlank).countP (!isBlank ·) = 0 := by
      apply List.countP_eq_zero.mpr
      intro c hc
      simp [List.mem_takeWhile_imp hc]
    conv_rhs => rw [← List.takeWhile_append_dropWhile (p := isBlank) (l := s)]
    rw [List.countP_append, hnone, Nat.zero_add]
  rw [trim, trimEnd, List.countP_reverse, hdrop, List.countP_reverse, trimStart, hdrop]

theorem trim_eq_nil_iff {t : Text} : trim t = [] ↔ ∀ c ∈ t, isBlank c = true := by
  constructor
  · intro h
    have hcount := countP_trim t
    rw [h, List.countP_nil, eq_comm, List.countP_eq_zero] at hcount
    simpa using hcount
  · intro h
    have hstart : trimStart t = [] := List.dropWhile_eq_nil_iff.mpr h
    rw [trim, hstart]
    rfl

/-- A line at the end leaves the trimmed text as it is only if the line is blank. -/
theorem trim_joinLines_concat (ls : List Text) (line : Text) :
    trim (joinLines (ls ++ [line])) = trim (joinLines ls) ↔ trim line = [] := by
  cases ls with
  | nil => simp [joinLines, join]
  | cons l ls =>
    rw [joinLines_concat (List.cons_ne_nil l ls)]
    constructor
    · intro h
      have hcount := congrArg (List.countP (!isBlank ·)) h
      rw [countP_trim, countP_trim, List.countP_append, Nat.add_eq_left, List.countP_eq_zero]
        at hcount
      apply trim_eq_nil_iff.mpr
      intro c hc
      simpa using hcount c (List.mem_cons_of_mem _ hc)
    · intro h
      have hblank : ∀ c ∈ '\n' :: line, isBlank c = true :=
        List.forall_mem_cons.mpr ⟨rfl, trim_eq_nil_iff.mp h⟩
      rw [← trim_trimEnd, trimEnd_append_blank hblank, trim_trimEnd]

theorem exists_suffix_trimStart {ls : List Text} (h : ∀ line ∈ ls, trim line = line) :
    ∃ ms, ms <:+ ls ∧ trimStart (joinLines ls) = joinLines ms := by
  induction ls with
  | nil => exact ⟨[], List.suffix_refl _, rfl⟩
  | cons line ls ih =>
    obtain ⟨hline, hrest⟩ := List.forall_mem_cons.mp h
    by_cases hls : ls = []
    · subst hls
      exact ⟨[line], List.suffix_refl _, by simpa [joinLines, join] using trimStart_of_trim hline⟩
    · rw [joinLines_cons hls]
      by_cases hnil : line = []
      · subst hnil
        obtain ⟨ms, hms, htrim⟩ := ih hrest
        exact ⟨ms, hms.trans (List.suffix_cons _ _), htrim⟩
      · refine ⟨line :: ls, List.suffix_refl _, ?_⟩
        rw [trimStart_append hnil (trimStart_of_trim hline), joinLines_cons hls]

theorem exists_prefix_trimEnd {ls : List Text} (h : ∀ line ∈ ls, trim line = line) :
    ∃ ms, ms <+: ls ∧ trimEnd (joinLines ls) = joinLines ms := by
  induction ls using List.reverseRecOn with
  | nil => exact ⟨[], List.prefix_refl _, rfl⟩
  | append_singleton ls line ih =>
    have hline := h line (by simp)
    by_cases hls : ls = []
    · subst hls
      exact ⟨[line], List.prefix_refl _, by simpa [joinLines, join] using trimEnd_of_trim hline⟩
    · rw [joinLines_concat hls]
      by_cases hnil : line = []
      · subst hnil
        obtain ⟨ms, hms, htrim⟩ := ih fun l hl => h l (List.mem_append_left _ hl)
        refine ⟨ms, hms.trans (List.prefix_append _ _), ?_⟩
        have hblank : ∀ c ∈ ['\n'], isBlank c = true := List.forall_mem_singleton.mpr rfl
        rw [trimEnd_append_blank hblank, htrim]
      · refine ⟨ls ++ [line], List.prefix_refl _, ?_⟩
        have hend := trimEnd_append hnil (trimEnd_of_trim hline) (joinLines ls ++ ['\n'])
        rw [joinLines_concat hls]
        simpa using hend

/-- Blank lines are all that can be trimmed from lines that are trimmed themselves. -/
theorem exists_infix_trim {ls : List Text} (h : ∀ line ∈ ls, trim line = line) :
    ∃ ms, ms <:+: ls ∧ trim (joinLines ls) = joinLines ms := by
  obtain ⟨ms, hms, hstart⟩ := exists_suffix_trimStart h
  obtain ⟨ns, hns, hend⟩ := exists_prefix_trimEnd fun l hl => h l (hms.subset hl)
  exact ⟨ns, hns.isInfix.trans hms.isInfix, by rw [trim, hstart, hend]⟩

theorem trim_infix (t : Text) : trim t <:+: t :=
  (trimEnd_isPrefix _).isInfix.trans (trimStart_isSuffix t).isInfix

theorem not_suffix_of_trimEnd {t : Text} (h : trimEnd t = t) {c : Char} (hc : isBlank c = true) :
    ¬ [c] <:+ t := by
  rintro ⟨s, rfl⟩
  have hlen := congrArg List.length h
  have hdrop := (List.dropWhile_suffix isBlank (l := s.reverse)).length_le
  simp [trimEnd, hc] at hlen hdrop
  omega

theorem Unbroken.of_trim {t : Text} (h : trim t = t) (hn : '\n' ∉ t) : Unbroken t :=
  ⟨hn, not_suffix_of_trimEnd (trimEnd_of_trim h) rfl⟩

end StyleGuide.Text
