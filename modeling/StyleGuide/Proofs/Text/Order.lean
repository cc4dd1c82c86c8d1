import Mathlib.Data.List.Perm.Basic
import StyleGuide.Text.Order

namespace StyleGuide.Text

theorem ne_of_precedes {s t : Text} (h : precedes s t = true) : s ≠ t := by
  rintro rfl
  simp [precedes_irrefl] at h

theorem precedes_asymm {s t : Text} (h : precedes s t = true) : precedes t s = false := by
  by_contra hts
  have hss := precedes_trans h (by simpa using hts)
  simp [precedes_irrefl] at hss

theorem precedes_of_ne {s t : Text} (hne : s ≠ t) (h : precedes t s = false) :
    precedes s t = true := by
  by_contra hst
  exact hne (eq_of_not_precedes (by simpa using hst) h)

@[simp] theorem atMost_refl (s : Text) : atMost s s = true := by
  simp [atMost, precedes_irrefl]

theorem atMost_total (s t : Text) : (atMost s t || atMost t s) = true := by
  cases h : precedes t s with
  | false => simp [atMost, h]
  | true => simp [atMost, precedes_asymm h]

theorem atMost_trans {s t u : Text} (hst : atMost s t = true) (htu : atMost t u = true) :
    atMost s u = true := by
  simp only [atMost, Bool.not_eq_eq_eq_not, Bool.not_true] at hst htu ⊢
  by_contra hus
  have hus : precedes u s = true := by simpa using hus
  cases hts : precedes s t with
  | true => simp [precedes_trans hus hts] at htu
  | false =>
    obtain rfl := eq_of_not_precedes hts hst
    simp [hus] at htu

theorem atMost_antisymm {s t : Text} (hst : atMost s t = true) (hts : atMost t s = true) :
    s = t := by
  simp only [atMost, Bool.not_eq_eq_eq_not, Bool.not_true] at hst hts
  exact eq_of_not_precedes hts hst

variable {α : Type}

theorem eq_of_ascending {key : α → Text} {xs ys : List α}
    (hxs : xs.Pairwise fun a b => precedes (key a) (key b) = true)
    (hys : ys.Pairwise fun a b => precedes (key a) (key b) = true)
    (h : ∀ a, a ∈ xs ↔ a ∈ ys) : xs = ys := by
  have hnodup (zs : List α) (hzs : zs.Pairwise fun a b => precedes (key a) (key b) = true) :
      zs.Nodup := by
    apply hzs.imp
    rintro a b hab rfl
    exact ne_of_precedes hab rfl
  have hperm := (List.perm_ext_iff_of_nodup (hnodup xs hxs) (hnodup ys hys)).mpr h
  apply hperm.eq_of_pairwise _ hxs hys
  intro a b _ _ hab hba
  exact absurd rfl (ne_of_precedes (precedes_trans hab hba))

/-- The list `ys` is `xs` in ascending order of the keys, and what has one key keeps its order. -/
structure StableSort (key : α → Text) (xs ys : List α) : Prop where
  sorted : ys.Pairwise fun a b => atMost (key a) (key b) = true
  stable : ∀ k, ys.filter (key · = k) = xs.filter (key · = k)

theorem stableSort_mergeSort (key : α → Text) (xs : List α) :
    StableSort key xs (xs.mergeSort fun a b => atMost (key a) (key b)) := by
  have htrans : ∀ a b c : α, atMost (key a) (key b) = true → atMost (key b) (key c) = true →
      atMost (key a) (key c) = true := fun _ _ _ => atMost_trans
  have htotal : ∀ a b : α, (atMost (key a) (key b) || atMost (key b) (key a)) = true :=
    fun a b => atMost_total (key a) (key b)
  refine ⟨List.pairwise_mergeSort htrans htotal xs, fun k => ?_⟩
  have hequal : (xs.filter (key · = k)).Pairwise fun a b => atMost (key a) (key b) = true := by
    rw [List.pairwise_iff_forall_sublist]
    intro a b hab
    have ha := hab.subset (by simp : a ∈ [a, b])
    have hb := hab.subset (by simp : b ∈ [a, b])
    simp only [List.mem_filter, decide_eq_true_eq] at ha hb
    rw [ha.2, hb.2, atMost_refl]
  have hsub := (List.sublist_mergeSort htrans htotal hequal List.filter_sublist).filter (key · = k)
  simp only [List.filter_filter, Bool.and_self] at hsub
  refine (hsub.eq_of_length ?_).symm
  exact (((List.mergeSort_perm xs _).filter (key · = k)).length_eq).symm

theorem atMost_head {key : α → Text} {x y : α} {xs : List α}
    (h : (x :: xs).Pairwise fun a b => atMost (key a) (key b) = true) (hy : y ∈ x :: xs) :
    atMost (key x) (key y) = true := by
  rcases List.mem_cons.mp hy with rfl | hy
  · exact atMost_refl _
  · exact (List.pairwise_cons.mp h).1 y hy

theorem mem_of_filter_eq {κ : Type} [DecidableEq κ] {key : α → κ} {xs ys : List α}
    (h : ∀ k, xs.filter (key · = k) = ys.filter (key · = k)) {y : α} (hy : y ∈ ys) : y ∈ xs := by
  have hmem : y ∈ ys.filter (key · = key y) := by simp [hy]
  rw [← h (key y)] at hmem
  exact List.mem_of_mem_filter hmem

theorem eq_of_sorted_of_filter_eq {key : α → Text} {xs ys : List α}
    (hxs : xs.Pairwise fun a b => atMost (key a) (key b) = true)
    (hys : ys.Pairwise fun a b => atMost (key a) (key b) = true)
    (h : ∀ k, xs.filter (key · = k) = ys.filter (key · = k)) : xs = ys := by
  induction xs generalizing ys with
  | nil =>
    apply Eq.symm
    apply List.eq_nil_iff_forall_not_mem.mpr
    intro y hy
    exact List.not_mem_nil (mem_of_filter_eq h hy)
  | cons x xs ih =>
    have hx : x ∈ ys := mem_of_filter_eq (fun k => (h k).symm) List.mem_cons_self
    cases ys with
    | nil => exact absurd hx List.not_mem_nil
    | cons y ys =>
      have hy : y ∈ x :: xs := mem_of_filter_eq h List.mem_cons_self
      have hkey : key x = key y := atMost_antisymm (atMost_head hxs hy) (atMost_head hys hx)
      obtain rfl : x = y := by
        have hfirst := h (key x)
        rw [List.filter_cons_of_pos (by simp), List.filter_cons_of_pos (by simp [hkey])] at hfirst
        exact (List.cons.inj hfirst).1
      congr 1
      apply ih hxs.of_cons hys.of_cons
      intro k
      have hk := h k
      by_cases hxk : key x = k
      · rw [List.filter_cons_of_pos (by simp [hxk]), List.filter_cons_of_pos (by simp [hxk])] at hk
        exact (List.cons.inj hk).2
      · rwa [List.filter_cons_of_neg (by simp [hxk]), List.filter_cons_of_neg (by simp [hxk])] at hk

end StyleGuide.Text
