import Mathlib.Data.List.Nodup
import Mathlib.Data.List.Perm.Subperm
import Mathlib.Data.Nat.Find
import Mathlib.Order.Bounds.Basic
import StyleGuide.Anchor

namespace StyleGuide.Anchors

/-- The loop that tries one candidate after the other, from the `n`-th on, until one is not among
the given anchors. It tests so many candidates and ends with the last of them. -/
inductive Tries (given : List Text) (base : Text) : (n tests : Nat) → Text → Prop
  | free {n : Nat} (h : candidate base n ∉ given) : Tries given base n 1 (candidate base n)
  | taken {n tests : Nat} {anchor : Text} (h : candidate base n ∈ given)
      (hrest : Tries given base (n + 1) tests anchor) : Tries given base n (tests + 1) anchor

/-- The slug and every number behind it that the counter holds are given out. -/
def Exhausted (given : List Text) (base : Text) : Prop :=
  base ∈ given ∧ ∀ n, 0 < n → n < counterLimit → base ++ '-' :: Text.ofNat n ∈ given

def IsFirstFree (given : List Text) (base : Text) (n : Nat) : Prop :=
  suffixed base n ∉ given ∧ ∀ m < n, suffixed base m ∈ given

theorem exists_free (given : List Text) (base : Text) :
    ∃ n ≤ given.length, suffixed base n ∉ given := by
  by_contra hnone
  push Not at hnone
  -- One more candidate than there are anchors cannot all be among them.
  let tried := (List.range (given.length + 1)).map (suffixed base)
  have hdistinct : tried.Nodup := List.nodup_range.map fun _ _ => suffixed_injective base
  have htaken : tried ⊆ given := by
    intro anchor hanchor
    obtain ⟨n, hn, rfl⟩ := List.mem_map.mp hanchor
    exact hnone n (Nat.le_of_lt_succ (List.mem_range.mp hn))
  have hlength := (List.subperm_of_subset hdistinct htaken).length_le
  simp only [tried, List.length_map, List.length_range] at hlength
  omega

theorem exists_isFirstFree (given : List Text) (base : Text) :
    ∃ n ≤ given.length, IsFirstFree given base n := by
  obtain ⟨n, hn, hfree⟩ := exists_free given base
  have hexists : ∃ n, suffixed base n ∉ given := ⟨n, hfree⟩
  refine ⟨Nat.find hexists, (Nat.find_min' hexists hfree).trans hn, Nat.find_spec hexists, ?_⟩
  intro m hm
  exact not_not.mp (Nat.find_min hexists hm)

theorem IsFirstFree.lt_counterLimit {given : List Text} {base : Text} {n : Nat}
    (h : IsFirstFree given base n) (hexhausted : ¬ Exhausted given base) : n < counterLimit := by
  by_contra hle
  refine hexhausted ⟨h.2 0 ?_, fun m hpos hm => ?_⟩
  · exact Nat.lt_of_lt_of_le (by decide : 0 < counterLimit) (Nat.le_of_not_lt hle)
  · obtain ⟨m, rfl⟩ := Nat.exists_eq_succ_of_ne_zero (Nat.ne_of_gt hpos)
    exact h.2 (m + 1) (by omega)

theorem IsFirstFree.congr {given used : List Text} {base : Text} {n : Nat}
    (h : IsFirstFree given base n) (hused : ∀ anchor, anchor ∈ used ↔ anchor ∈ given) :
    IsFirstFree used base n :=
  ⟨fun hmem => h.1 ((hused _).mp hmem), fun m hm => (hused _).mpr (h.2 m hm)⟩

theorem IsFirstFree.firstFree_eq {used : List Text} {base : Text} {n : Nat}
    (h : IsFirstFree used base n) (hlimit : n < counterLimit) (tries : Nat) {m : Nat} (hm : m ≤ n)
    (htries : n ≤ m + tries) : firstFree used base tries m = suffixed base n := by
  induction tries generalizing m with
  | zero => rw [firstFree, Nat.le_antisymm hm htries, candidate_eq_suffixed base hlimit]
  | succ tries ih =>
    rw [firstFree, candidate_eq_suffixed base (by omega)]
    split
    · next htaken =>
      have hne : m ≠ n := by
        rintro rfl
        exact h.1 htaken
      exact ih (by omega) (by omega)
    · next hfree =>
      have hge : ¬ m < n := fun hlt => hfree (h.2 m hlt)
      rw [Nat.le_antisymm hm (Nat.le_of_not_lt hge)]

theorem IsFirstFree.next_eq {a : Anchors} {heading : Text} {n : Nat}
    (h : IsFirstFree a.used (slug heading) n) (hlimit : n < counterLimit) :
    (a.next heading).1 = suffixed (slug heading) n := by
  obtain ⟨m, hm, hfirst⟩ := exists_isFirstFree a.used (slug heading)
  have hle : n ≤ m := by
    by_contra hlt
    exact hfirst.1 (h.2 m (by omega))
  rw [next_eq_firstFree, h.firstFree_eq hlimit _ (Nat.zero_le n) (by omega)]

theorem IsFirstFree.tries {given : List Text} {base : Text} {m : Nat} (tests : Nat)
    (h : IsFirstFree given base (m + tests)) (hlimit : m + tests < counterLimit) :
    Tries given base m (tests + 1) (suffixed base (m + tests)) := by
  have hcandidate := candidate_eq_suffixed base (n := m) (by omega)
  induction tests generalizing m with
  | zero =>
    have hfree : candidate base m ∉ given := by
      rw [hcandidate]
      exact h.1
    exact hcandidate ▸ .free hfree
  | succ tests ih =>
    have hm : m + (tests + 1) = m + 1 + tests := by omega
    refine .taken (by rw [hcandidate]; exact h.2 m (by omega)) ?_
    rw [hm] at h hlimit ⊢
    exact ih h hlimit (candidate_eq_suffixed base (by omega))

end StyleGuide.Anchors
