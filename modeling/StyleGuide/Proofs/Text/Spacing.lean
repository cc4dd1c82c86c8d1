import StyleGuide.Proofs.Text.Lines

namespace StyleGuide.Text

/-- A text that holds no blank. -/
def Solid (mark : Text) : Prop := ∀ c ∈ mark, isBlank c = false

theorem Solid.not_prefix_cons {mark : Text} (h : Solid mark) (hne : mark ≠ []) {c : Char}
    (hc : isBlank c = true) (t : Text) : ¬ mark <+: c :: t := by
  obtain ⟨m, mark, rfl⟩ := List.exists_cons_of_ne_nil hne
  rw [List.cons_prefix_cons]
  rintro ⟨rfl, _⟩
  have hm : isBlank m = false := h m List.mem_cons_self
  rw [hm] at hc
  cases hc

/-- Only blanks are changed, and none of them is put before what is no blank. -/
structure Respaces (f : Text → Text) : Prop where
  nil : f [] = []
  solid : ∀ c t, isBlank c = false → f (c :: t) = c :: f t
  blank : ∀ c t, isBlank c = true → ∀ x ∈ (f (c :: t)).head?, isBlank x = true

theorem Respaces.append {f : Text → Text} (hf : Respaces f) {mark : Text} (h : Solid mark)
    (t : Text) : f (mark ++ t) = mark ++ f t := by
  induction mark with
  | nil => rfl
  | cons m mark ih =>
    obtain ⟨hm, hmark⟩ := List.forall_mem_cons.mp h
    rw [List.cons_append, hf.solid m _ hm, ih hmark, List.cons_append]

theorem Respaces.prefix_iff {f : Text → Text} (hf : Respaces f) {mark : Text} (h : Solid mark)
    (t : Text) : mark <+: f t ↔ mark <+: t := by
  induction mark generalizing t with
  | nil => simp
  | cons m mark ih =>
    obtain ⟨hm, hmark⟩ := List.forall_mem_cons.mp h
    cases t with
    | nil => rw [hf.nil]
    | cons c t =>
      cases hc : isBlank c with
      | false => rw [hf.solid c t hc, List.cons_prefix_cons, List.cons_prefix_cons, ih hmark]
      | true =>
        refine iff_of_false ?_ (Solid.not_prefix_cons h (List.cons_ne_nil m mark) hc t)
        rintro ⟨rest, hrest⟩
        have hblank := hf.blank c t hc m (by simp [← hrest])
        rw [hm] at hblank
        cases hblank

/-- The text with a carriage return in front of every newline. -/
def returned : Text → Text
  | [] => []
  | c :: t => if c = '\n' then '\r' :: c :: returned t else c :: returned t

theorem returned_append (s t : Text) : returned (s ++ t) = returned s ++ returned t := by
  induction s with
  | nil => rfl
  | cons c s ih =>
    rw [List.cons_append, returned, returned, ih]
    split_ifs <;> rfl

theorem returned_of_not_mem {t : Text} (h : '\n' ∉ t) : returned t = t := by
  induction t with
  | nil => rfl
  | cons c t ih =>
    rw [List.mem_cons, not_or] at h
    rw [returned, if_neg (Ne.symm h.1), ih h.2]

theorem getLast?_returned (t : Text) : (returned t).getLast? = t.getLast? := by
  rcases List.eq_nil_or_concat' t with rfl | ⟨s, c, rfl⟩
  · rfl
  · rw [returned_append, List.getLast?_concat, returned]
    split_ifs <;> simp [returned]

theorem ne_newline {c : Char} (h : isBlank c = false) : c ≠ '\n' := by
  rintro rfl
  cases h

theorem respaces_returned : Respaces returned where
  nil := rfl
  solid c t hc := by rw [returned, if_neg (ne_newline hc)]
  blank c t hc := by
    rw [returned]
    split_ifs
    · simp [isBlank]
    · simpa using hc

theorem cut?_returned {mark : Text} (h : Solid mark) (hne : mark ≠ []) (t : Text) :
    cut? mark (returned t) = (cut? mark t).map (Prod.map returned returned) := by
  induction t with
  | nil =>
    obtain ⟨m, mark, rfl⟩ := List.exists_cons_of_ne_nil hne
    rfl
  | cons c t ih =>
    by_cases hp : mark <+: c :: t
    · obtain ⟨rest, hrest⟩ := hp
      rw [← hrest, respaces_returned.append h, cut?_append_mark, cut?_append_mark]
      rfl
    · have hq := mt (respaces_returned.prefix_iff h _).mp hp
      rw [cut?_cons hp, Option.map_map]
      rw [returned] at hq ⊢
      split_ifs at hq ⊢ with hc
      · have hblank : isBlank c = true := hc ▸ rfl
        rw [cut?_cons hq, cut?_cons (h.not_prefix_cons hne hblank _), ih, Option.map_map,
          Option.map_map]
        congr 1
        funext p
        simp [returned, hc]
      · rw [cut?_cons hq, ih, Option.map_map]
        congr 1
        funext p
        simp [returned, hc]

theorem lines_returned {t : Text} (h : '\r' ∉ t) : lines (returned t) = lines t := by
  induction t using pieceInduction '\n' with
  | last a ha => rw [returned_of_not_mem ha]
  | more a b ha ih =>
    simp only [List.mem_append, List.mem_cons, not_or] at h
    have hsplit : returned (a ++ '\n' :: b) = (a ++ ['\r']) ++ '\n' :: returned b := by
      rw [returned_append, returned_of_not_mem ha]
      simp [returned]
    have hend : ¬ ['\r'] <:+ a := fun hs => h.1 (hs.subset List.mem_cons_self)
    rw [hsplit, lines_append_cons (by simp [ha]), lines_append_cons ha, dropStop_append,
      dropStop_of_not_suffix hend, ih h.2.2]

/-- Whether only blanks are left on the line. The end of the text ends a line if `closed`. -/
def blankRest (closed : Bool) : Text → Bool
  | [] => closed
  | c :: t => c = '\n' || (isBlank c && blankRest closed t)

/-- The text without the blanks at both ends of its lines. Where the text starts, a line starts if
`fresh`, and where it ends, a line ends if `closed`. -/
def pare (fresh closed : Bool) : Text → Text
  | [] => []
  | c :: t =>
    if c = '\n' then c :: pare true closed t
    else if isBlank c && (fresh || blankRest closed t) then pare fresh closed t
    else c :: pare false closed t

theorem blankRest_append_cons {c : Char} (hc : isBlank c = false) (closed : Bool) (s t : Text) :
    blankRest closed (s ++ c :: t) = blankRest false s := by
  induction s with
  | nil => simp [blankRest, hc, ne_newline hc]
  | cons d s ih => rw [List.cons_append, blankRest, blankRest, ih]

theorem blankRest_append_newline {a : Text} (h : '\n' ∉ a) (closed : Bool) (t : Text) :
    blankRest closed (a ++ '\n' :: t) = blankRest true a := by
  induction a with
  | nil => rfl
  | cons c a ih =>
    rw [List.mem_cons, not_or] at h
    simp [blankRest, Ne.symm h.1, ih h.2]

theorem pare_append_cons {c : Char} (hc : isBlank c = false) (fresh closed : Bool) (s t : Text) :
    pare fresh closed (s ++ c :: t) = pare fresh false s ++ c :: pare false closed t := by
  induction s generalizing fresh with
  | nil => simp [pare, hc, ne_newline hc]
  | cons d s ih =>
    rw [List.cons_append, pare, pare, blankRest_append_cons hc, ih, ih, ih]
    split_ifs <;> rfl

theorem head?_pare_of_blankRest {closed : Bool} {t : Text} (h : blankRest closed t = true) :
    ∀ x ∈ (pare false closed t).head?, isBlank x = true := by
  induction t with
  | nil => simp [pare]
  | cons c t ih =>
    rw [pare]
    split_ifs with hc hdrop
    · simp [hc, isBlank]
    · simp only [Bool.false_or, Bool.and_eq_true] at hdrop
      exact ih hdrop.2
    · simp [blankRest, hc] at h hdrop
      simp_all

theorem respaces_pare (closed : Bool) : Respaces (pare false closed) where
  nil := rfl
  solid c t hc := by simp [pare, hc, ne_newline hc]
  blank c t hc := by
    rw [pare]
    split_ifs with hn hdrop
    · simpa using hc
    · simp only [Bool.false_or, Bool.and_eq_true] at hdrop
      exact head?_pare_of_blankRest hdrop.2
    · simpa using hc

theorem pare_append_solid {mark : Text} (h : Solid mark) (hne : mark ≠ []) (fresh closed : Bool)
    (t : Text) : pare fresh closed (mark ++ t) = mark ++ pare false closed t := by
  obtain ⟨m, mark, rfl⟩ := List.exists_cons_of_ne_nil hne
  have hm : isBlank m = false := h m List.mem_cons_self
  rw [← (respaces_pare closed).append h]
  simp [pare, hm]

/-- A line that holds the mark ends there, for what comes before. -/
theorem blankRest_of_cut? {mark t front rest : Text} (h : Solid mark) (hne : mark ≠ [])
    (hcut : cut? mark t = some (front, rest)) (closed : Bool) :
    blankRest closed t = blankRest false front := by
  obtain ⟨m, mark, rfl⟩ := List.exists_cons_of_ne_nil hne
  rw [eq_of_cut? hcut, List.append_assoc, List.cons_append,
    blankRest_append_cons (h m List.mem_cons_self)]

theorem cut?_pare {mark : Text} (h : Solid mark) (hne : mark ≠ []) (fresh closed : Bool)
    (t : Text) :
    cut? mark (pare fresh closed t) =
      (cut? mark t).map (Prod.map (pare fresh false) (pare false closed)) := by
  induction t generalizing fresh with
  | nil =>
    obtain ⟨m, mark, rfl⟩ := List.exists_cons_of_ne_nil hne
    rfl
  | cons c t ih =>
    by_cases hp : mark <+: c :: t
    · obtain ⟨rest, hrest⟩ := hp
      rw [← hrest, pare_append_solid h hne, cut?_append_mark, cut?_append_mark]
      rfl
    · rw [cut?_cons hp, Option.map_map]
      by_cases hn : c = '\n'
      · have hline : pare fresh closed (c :: t) = c :: pare true closed t := by simp [pare, hn]
        rw [hline, cut?_cons (h.not_prefix_cons hne (hn ▸ rfl) _), ih, Option.map_map]
        apply Option.map_congr
        intro p _
        simp [pare, hn]
      · by_cases hdrop : (isBlank c && (fresh || blankRest closed t)) = true
        · rw [pare, if_neg hn, if_pos hdrop, ih]
          apply Option.map_congr
          intro p hcut
          rw [blankRest_of_cut? h hne hcut] at hdrop
          simp [pare, hn, hdrop, Prod.map]
        · have hkeep : ¬ mark <+: c :: pare false closed t := by
            cases hc : isBlank c with
            | true => exact h.not_prefix_cons hne hc _
            | false => rwa [← (respaces_pare closed).solid c t hc, (respaces_pare closed).prefix_iff h]
          rw [pare, if_neg hn, if_neg hdrop, cut?_cons hkeep, ih, Option.map_map]
          apply Option.map_congr
          intro p hcut
          rw [blankRest_of_cut? h hne hcut] at hdrop
          simp [pare, hn, hdrop]

theorem blankRest_eq_true_iff {a : Text} (h : '\n' ∉ a) :
    blankRest true a = true ↔ trimEnd a = [] := by
  induction a with
  | nil => simp [blankRest, trimEnd]
  | cons c a ih =>
    rw [List.mem_cons, not_or] at h
    rw [trimEnd_cons]
    simp [blankRest, Ne.symm h.1, ih h.2, and_comm]

theorem pare_false_of_not_mem {a : Text} (h : '\n' ∉ a) : pare false true a = trimEnd a := by
  induction a with
  | nil => rfl
  | cons c a ih =>
    rw [List.mem_cons, not_or] at h
    rw [pare, if_neg (Ne.symm h.1), ih h.2, trimEnd_cons]
    simp only [Bool.false_or, Bool.and_eq_true, blankRest_eq_true_iff h.2,
      and_comm (a := trimEnd a = [])]
    split_ifs with hdrop
    · exact hdrop.2
    · rfl

theorem pare_true_of_not_mem {a : Text} (h : '\n' ∉ a) : pare true true a = trim a := by
  induction a with
  | nil => rfl
  | cons c a ih =>
    have hall := h
    rw [List.mem_cons, not_or] at h
    cases hc : isBlank c with
    | true => rw [pare, if_neg (Ne.symm h.1), if_pos (by simp [hc]), ih h.2, trim_blank hc]
    | false =>
      have hfresh : pare true true (c :: a) = pare false true (c :: a) := by simp [pare, hc]
      rw [hfresh, pare_false_of_not_mem hall, trim, trimStart_cons hc]

theorem pare_append_newline {a : Text} (h : '\n' ∉ a) (fresh closed : Bool) (t : Text) :
    pare fresh closed (a ++ '\n' :: t) = pare fresh true a ++ '\n' :: pare true closed t := by
  induction a generalizing fresh with
  | nil => simp [pare]
  | cons c a ih =>
    rw [List.mem_cons, not_or] at h
    rw [List.cons_append, pare, pare, blankRest_append_newline h.2, ih h.2, ih h.2, ih h.2]
    split_ifs <;> rfl

theorem pieces_pare (t : Text) : pieces '\n' (pare true true t) = (pieces '\n' t).map trim := by
  have hline {a : Text} (ha : '\n' ∉ a) : '\n' ∉ trim a := by
    have hin : trim a <:+: a := trim_infix a
    exact fun h => ha (hin.subset h)
  induction t using pieceInduction '\n' with
  | last a ha =>
    rw [pare_true_of_not_mem ha, pieces_of_not_mem (hline ha), pieces_of_not_mem ha]
    rfl
  | more a b ha ih =>
    rw [pare_append_newline ha, pare_true_of_not_mem ha, pieces_append_cons (hline ha), ih,
      pieces_append_cons ha, List.map_cons]

theorem pare_congr {s t : Text} (h : (pieces '\n' s).map trim = (pieces '\n' t).map trim) :
    pare true true s = pare true true t := by
  rw [← join_pieces '\n' (pare true true s), pieces_pare, h, ← pieces_pare, join_pieces]

end StyleGuide.Text
