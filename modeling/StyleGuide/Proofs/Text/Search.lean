import Mathlib.Data.List.Infix
import Mathlib.Order.Bounds.Defs
import StyleGuide.Text.Basic

namespace StyleGuide.Text

section Pieces

variable {α : Type}

theorem infix_append_cons {mark a b : List α} {c : α} (hc : c ∉ mark) :
    mark <:+: a ++ c :: b ↔ mark <:+: a ∨ mark <:+: b := by
  constructor
  · rintro ⟨f, r, h⟩
    rw [List.append_assoc, List.append_eq_append_iff] at h
    rcases h with ⟨x, hx, hy⟩ | ⟨x, hx, hy⟩
    · rw [List.append_eq_append_iff] at hy
      rcases hy with ⟨y, rfl, hr⟩ | ⟨y, rfl, hr⟩
      · exact Or.inl ⟨f, y, by rw [hx, List.append_assoc]⟩
      · cases y with
        | nil => exact Or.inl ⟨f, [], by simp [hx]⟩
        | cons d y =>
          simp only [List.cons_append, List.cons.injEq] at hr
          exact absurd (by simp [hr.1]) hc
    · cases x with
      | nil =>
        cases mark with
        | nil => exact Or.inl (List.nil_infix)
        | cons d mark =>
          simp only [List.nil_append, List.cons_append, List.cons.injEq] at hy
          exact absurd (by simp [hy.1]) hc
      | cons d x =>
        simp only [List.cons_append, List.cons.injEq] at hy
        exact Or.inr ⟨x, r, by rw [List.append_assoc]; exact hy.2.symm⟩
  · rintro (h | h)
    · exact List.infix_append_of_infix_left h
    · exact List.infix_append_of_infix_right (List.infix_cons h)

theorem prefix_of_append_cons {mark a b : List α} {c : α} (hc : c ∉ mark)
    (h : mark <+: a ++ c :: b) : mark <+: a := by
  induction mark generalizing a with
  | nil => exact List.nil_prefix
  | cons d mark ih =>
    rw [List.mem_cons, not_or] at hc
    cases a with
    | nil =>
      rw [List.nil_append, List.cons_prefix_cons] at h
      exact absurd h.1.symm hc.1
    | cons x a =>
      rw [List.cons_append, List.cons_prefix_cons] at h
      rw [List.cons_prefix_cons]
      exact ⟨h.1, ih hc.2 h.2⟩

variable [DecidableEq α]

theorem after?_eq_some_iff {start t rest : List α} :
    after? start t = some rest ↔ t = start ++ rest := by
  induction start generalizing t with
  | nil => simp [after?]
  | cons s start ih =>
    cases t with
    | nil => simp [after?]
    | cons c t =>
      by_cases hc : s = c
      · simp [after?, hc, ih]
      · simp [after?, hc, Ne.symm hc]

@[simp] theorem after?_append (start rest : List α) : after? start (start ++ rest) = some rest :=
  after?_eq_some_iff.mpr rfl

theorem after?_eq_none_iff {start t : List α} : after? start t = none ↔ ¬ start <+: t := by
  rw [Option.eq_none_iff_forall_ne_some]
  constructor
  · rintro h ⟨rest, rfl⟩
    exact h rest (after?_append start rest)
  · intro h rest hr
    exact h ⟨rest, (after?_eq_some_iff.mp hr).symm⟩

theorem before?_eq_some_iff {stop t front : List α} :
    before? stop t = some front ↔ t = front ++ stop := by
  simp only [before?, Option.map_eq_some_iff, after?_eq_some_iff]
  constructor
  · rintro ⟨rest, hr, rfl⟩
    rw [← List.reverse_reverse t, hr, List.reverse_append, List.reverse_reverse]
  · rintro rfl
    exact ⟨front.reverse, by simp, by simp⟩

theorem before?_eq_none_iff {stop t : List α} : before? stop t = none ↔ ¬ stop <:+ t := by
  simp [before?, after?_eq_none_iff, List.reverse_prefix]

theorem dropStart_append (start rest : List α) : dropStart start (start ++ rest) = rest := by
  simp [dropStart]

theorem dropStart_isSuffix (start t : List α) : dropStart start t <:+ t := by
  rw [dropStart]
  cases h : after? start t with
  | none => exact List.suffix_refl t
  | some rest =>
    rw [Option.getD_some, after?_eq_some_iff.mp h]
    exact List.suffix_append start rest

theorem dropStop_append (front stop : List α) : dropStop stop (front ++ stop) = front := by
  rw [dropStop, before?_eq_some_iff.mpr rfl, Option.getD_some]

theorem dropStop_of_not_suffix {stop t : List α} (h : ¬ stop <:+ t) : dropStop stop t = t := by
  rw [dropStop, before?_eq_none_iff.mpr h, Option.getD_none]

theorem dropStop_isPrefix (stop t : List α) : dropStop stop t <+: t := by
  rw [dropStop]
  cases h : before? stop t with
  | none => exact List.prefix_refl t
  | some front =>
    rw [Option.getD_some, before?_eq_some_iff.mp h]
    exact List.prefix_append front stop

theorem cut?_append_mark (mark rest : List α) : cut? mark (mark ++ rest) = some ([], rest) := by
  cases mark with
  | nil => cases rest <;> rfl
  | cons m mark =>
    have h := after?_append (m :: mark) rest
    rw [List.cons_append] at h ⊢
    rw [cut?, h]

theorem cut?_cons {mark t : List α} {c : α} (h : ¬ mark <+: c :: t) :
    cut? mark (c :: t) = (cut? mark t).map fun p => (c :: p.1, p.2) := by
  rw [cut?, after?_eq_none_iff.mpr h]

theorem eq_of_cut? {mark t front rest : List α} (h : cut? mark t = some (front, rest)) :
    t = front ++ mark ++ rest := by
  induction t generalizing front with
  | nil =>
    simp only [cut?, Option.map_eq_some_iff, Prod.mk.injEq, after?_eq_some_iff] at h
    obtain ⟨r, hr, rfl, rfl⟩ := h
    exact hr
  | cons c t ih =>
    rw [cut?] at h
    split at h
    · next r hr =>
      simp only [Option.some.injEq, Prod.mk.injEq] at h
      obtain ⟨rfl, rfl⟩ := h
      exact after?_eq_some_iff.mp hr
    · simp only [Option.map_eq_some_iff, Prod.mk.injEq, Prod.exists] at h
      obtain ⟨f, r, hr, rfl, rfl⟩ := h
      rw [ih hr]
      rfl

theorem cut?_length_le {mark t front rest f r : List α} (h : cut? mark t = some (front, rest))
    (ht : t = f ++ mark ++ r) : front.length ≤ f.length := by
  induction t generalizing front rest f with
  | nil =>
    simp only [cut?, Option.map_eq_some_iff, Prod.mk.injEq] at h
    obtain ⟨_, _, rfl, _⟩ := h
    exact Nat.zero_le _
  | cons c t ih =>
    rw [cut?] at h
    split at h
    · simp only [Option.some.injEq, Prod.mk.injEq] at h
      obtain ⟨rfl, _⟩ := h
      exact Nat.zero_le _
    · next hn =>
      simp only [Option.map_eq_some_iff, Prod.mk.injEq, Prod.exists] at h
      obtain ⟨g, _, hg, rfl, _⟩ := h
      cases f with
      | nil => exact absurd ⟨r, ht.symm⟩ (after?_eq_none_iff.mp hn)
      | cons d f =>
        simp only [List.cons_append, List.cons.injEq] at ht
        have hl := ih hg ht.2
        simp only [List.length_cons]
        omega

theorem cut?_eq_none_iff {mark t : List α} : cut? mark t = none ↔ ¬ mark <:+: t := by
  induction t with
  | nil => simp [cut?, after?_eq_none_iff]
  | cons c t ih =>
    rw [cut?, List.infix_cons_iff, not_or, ← ih]
    split
    · next r hr =>
      have hp : mark <+: c :: t := ⟨r, (after?_eq_some_iff.mp hr).symm⟩
      simp [hp]
    · next hn => simp [after?_eq_none_iff.mp hn]

theorem cut?_append {mark front : List α} (h : ¬ mark <:+: front ++ mark.dropLast) (rest : List α) :
    cut? mark (front ++ mark ++ rest) = some (front, rest) := by
  cases hc : cut? mark (front ++ mark ++ rest) with
  | none => exact absurd (List.infix_append front mark rest) (cut?_eq_none_iff.mp hc)
  | some p =>
    obtain ⟨f, r⟩ := p
    have he : front ++ mark ++ rest = f ++ mark ++ r := eq_of_cut? hc
    have hl : f.length ≤ front.length := cut?_length_le hc rfl
    -- A shorter front would put the whole mark into what comes before the last character.
    have hlen : front.length ≤ f.length := by
      by_contra hlt
      apply h
      have hf : f ++ mark <+: front ++ mark ++ rest := ⟨r, he.symm⟩
      have hd : front ++ mark.dropLast <+: front ++ mark ++ rest :=
        ((List.prefix_append_right_inj front).mpr mark.dropLast_prefix).trans
          (List.prefix_append _ _)
      have hp : f ++ mark <+: front ++ mark.dropLast := by
        apply List.prefix_of_prefix_length_le hf hd
        simp only [List.length_append, List.length_dropLast]
        omega
      exact List.infix_append_right.trans hp.isInfix
    rw [List.append_assoc, List.append_assoc] at he
    obtain ⟨rfl, hr⟩ := List.append_inj he (by omega)
    rw [List.append_cancel_left hr]

theorem cut?_append_right {mark t front rest : List α} (h : cut? mark t = some (front, rest))
    (u : List α) : cut? mark (t ++ u) = some (front, rest ++ u) := by
  have ht : t ++ u = front ++ mark ++ (rest ++ u) := by rw [eq_of_cut? h, List.append_assoc]
  cases hc : cut? mark (t ++ u) with
  | none => exact absurd ⟨front, rest ++ u, ht.symm⟩ (cut?_eq_none_iff.mp hc)
  | some p =>
    obtain ⟨f, r⟩ := p
    have htu : t ++ u = f ++ mark ++ r := eq_of_cut? hc
    have hle : f.length ≤ front.length := cut?_length_le hc ht
    -- The earlier mark lies within `t`, where none comes before the first one.
    have hin : f ++ mark <+: t := by
      apply List.prefix_of_prefix_length_le ⟨r, htu.symm⟩ (List.prefix_append t u)
      have hlen := length_of_cut? h
      simp only [List.length_append]
      omega
    obtain ⟨x, hx⟩ := hin
    have hge : front.length ≤ f.length := cut?_length_le h hx.symm
    rw [ht, List.append_assoc, List.append_assoc] at htu
    obtain ⟨rfl, hr⟩ := List.append_inj htu (by omega)
    rw [List.append_cancel_left hr]

theorem cut?_append_cons {mark a : List α} {c : α} (hc : c ∉ mark) (ha : ¬ mark <:+: a)
    (b : List α) :
    cut? mark (a ++ c :: b) = (cut? mark b).map fun p => (a ++ c :: p.1, p.2) := by
  induction a with
  | nil => exact cut?_cons fun h => ha (prefix_of_append_cons hc h).isInfix
  | cons d a ih =>
    have hnone : ¬ mark <+: d :: (a ++ c :: b) :=
      fun h => ha (prefix_of_append_cons (a := d :: a) hc h).isInfix
    rw [List.cons_append, cut?_cons hnone, ih fun h => ha (List.infix_cons h), Option.map_map]
    rfl

end Pieces

@[simp] theorem byteSize_append (s t : Text) : byteSize (s ++ t) = byteSize s + byteSize t := by
  induction s with
  | nil => simp [byteSize]
  | cons c s ih => simp only [List.cons_append, byteSize, ih, Nat.add_assoc]

theorem byteSize_add_length_le {s t : Text} (h : s.Sublist t) :
    byteSize s + t.length ≤ byteSize t + s.length := by
  induction h with
  | slnil => rfl
  | cons c _ ih =>
    have hc := c.utf8Size_pos
    simp only [byteSize, List.length_cons]
    omega
  | cons_cons c _ ih =>
    simp only [byteSize, List.length_cons]
    omega

theorem byteSize_lt_iff_of_sublist {s t : Text} (h : s.Sublist t) :
    byteSize s < byteSize t ↔ s.length < t.length := by
  have hbytes := byteSize_add_length_le h
  constructor
  · intro hlt
    by_contra hle
    rw [h.eq_of_length_le (not_lt.mp hle)] at hlt
    exact lt_irrefl _ hlt
  · intro hlt
    omega

theorem byteSize_eq_zero {t : Text} : byteSize t = 0 ↔ t = [] := by
  cases t with
  | nil => simp [byteSize]
  | cons c t => simp [byteSize, Nat.ne_of_gt c.utf8Size_pos]

theorem prefix_of_byteSize_le {s t u v : Text} (h : s ++ u = t ++ v)
    (hl : byteSize s ≤ byteSize t) : s <+: t := by
  rcases List.append_eq_append_iff.mp h with ⟨x, rfl, _⟩ | ⟨x, rfl, _⟩
  · exact List.prefix_append s x
  · have hx : x = [] := byteSize_eq_zero.mp (by simp only [byteSize_append] at hl; omega)
    simp [hx]

theorem append_inj_byteSize {s t u v : Text} (h : s ++ u = t ++ v)
    (hl : byteSize s = byteSize t) : s = t ∧ u = v := by
  obtain ⟨x, rfl⟩ := prefix_of_byteSize_le h hl.le
  have hx : x = [] := byteSize_eq_zero.mp (by simp only [byteSize_append] at hl; omega)
  subst hx
  rw [List.append_nil] at h ⊢
  exact ⟨rfl, List.append_cancel_left h⟩

/-- The mark stands in the text, and `i` bytes of the text come before it. -/
def OccursAt (mark : Text) (i : Nat) (t : Text) : Prop :=
  ∃ front rest, t = front ++ mark ++ rest ∧ byteSize front = i

theorem OccursAt.append_right {mark t : Text} {i : Nat} (h : OccursAt mark i t) (u : Text) :
    OccursAt mark i (t ++ u) := by
  obtain ⟨front, rest, rfl, hi⟩ := h
  exact ⟨front, rest ++ u, by simp, hi⟩

theorem OccursAt.trans {mark s t : Text} {i j : Nat} (h : OccursAt mark i s) (hs : OccursAt s j t) :
    OccursAt mark (j + i) t := by
  obtain ⟨front, rest, rfl, hi⟩ := h
  obtain ⟨f, r, rfl, hj⟩ := hs
  exact ⟨f ++ front, rest ++ r, by simp, by simp [hi, hj]⟩

theorem OccursAt.append_eq {s t u : Text} {i : Nat} (hs : OccursAt s i u) (ht : OccursAt t i u) :
    ∃ r x, s ++ r = t ++ x := by
  obtain ⟨f, r, hf, hfi⟩ := hs
  obtain ⟨g, x, hg, hgi⟩ := ht
  have hsame : f ++ (s ++ r) = g ++ (t ++ x) := by
    rw [← List.append_assoc, ← List.append_assoc, ← hf, ← hg]
  exact ⟨r, x, (append_inj_byteSize hsame (hfi.trans hgi.symm)).2⟩

theorem occursAt_append {mark s t : Text} {i : Nat} :
    OccursAt mark (byteSize s + i) (s ++ t) ↔ OccursAt mark i t := by
  constructor
  · rintro ⟨front, rest, h, hi⟩
    rw [List.append_assoc] at h
    obtain ⟨x, rfl⟩ := prefix_of_byteSize_le h (by omega)
    rw [List.append_assoc, List.append_cancel_left_eq] at h
    exact ⟨x, rest, by rw [h, List.append_assoc], by simp only [byteSize_append] at hi; omega⟩
  · rintro ⟨front, rest, rfl, rfl⟩
    exact ⟨s ++ front, rest, by simp, by simp⟩

theorem isLeast_of_cut? {mark t front rest : Text} (h : cut? mark t = some (front, rest)) :
    IsLeast {i | OccursAt mark i t} (byteSize front) := by
  have ht := eq_of_cut? h
  refine ⟨⟨front, rest, ht, rfl⟩, ?_⟩
  rintro i ⟨f, r, hf, rfl⟩
  have hl := cut?_length_le h hf
  have hfront : front <+: t := ⟨mark ++ rest, by rw [ht, List.append_assoc]⟩
  have hshort : f <+: t := ⟨mark ++ r, by rw [hf, List.append_assoc]⟩
  obtain ⟨x, rfl⟩ := List.prefix_of_prefix_length_le hfront hshort hl
  simp

theorem not_occursAt_of_cut? {mark t : Text} (h : cut? mark t = none) (i : Nat) :
    ¬ OccursAt mark i t := by
  rintro ⟨front, rest, rfl, _⟩
  exact cut?_eq_none_iff.mp h (List.infix_append front mark rest)

/-- The text before byte `n` and from there on, if a character ends there. -/
def splitAt? : Text → Nat → Option (Text × Text)
  | t, 0 => some ([], t)
  | [], _ + 1 => none
  | c :: t, n + 1 =>
    if c.utf8Size ≤ n + 1 then
      (splitAt? t (n + 1 - c.utf8Size)).map fun (front, rest) => (c :: front, rest)
    else none

theorem splitAt?_append (s t : Text) : splitAt? (s ++ t) (byteSize s) = some (s, t) := by
  induction s with
  | nil => cases t <;> rfl
  | cons c s ih =>
    have hpos := c.utf8Size_pos
    obtain ⟨n, hn⟩ : ∃ n, byteSize (c :: s) = n + 1 :=
      Nat.exists_eq_add_one.mpr (by rw [byteSize]; omega)
    have hsize : n + 1 - c.utf8Size = byteSize s := by rw [← hn, byteSize]; omega
    rw [hn, List.cons_append, splitAt?, hsize, ih, if_pos (by rw [← hn, byteSize]; omega)]
    rfl

end StyleGuide.Text
