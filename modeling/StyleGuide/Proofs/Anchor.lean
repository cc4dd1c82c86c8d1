import StyleGuide.Anchor

namespace StyleGuide

theorem newline_not_mem_slug (heading : Text) : '\n' ∉ slug heading := by
  have hletter : Text.isAlphanumeric '\n' = false := by decide +kernel
  intro h
  obtain ⟨c, hc, he⟩ := List.mem_map.mp h
  by_cases hspace : c = ' '
  · rw [if_pos hspace] at he
    exact absurd he (by decide)
  · rw [if_neg hspace] at he
    subst he
    exact absurd (List.mem_filter.mp hc).2 (by simp [hletter])

theorem Text.newline_not_mem_ofNat (n : Nat) : '\n' ∉ Text.ofNat n := by
  have hdigit {k : Nat} (hk : k < 10) : '\n' ≠ Text.digit k := by
    intro he
    have hnat := Text.toNat_digit hk
    rw [← he] at hnat
    have hten : '\n'.toNat = 10 := rfl
    omega
  fun_induction Text.ofNat n with
  | case1 n h => simpa using hdigit h
  | case2 n h ih =>
    rw [List.mem_append, List.mem_singleton, not_or]
    exact ⟨ih, hdigit (Nat.mod_lt n (by omega))⟩

theorem Text.newline_not_mem_ofInt (n : Int) : '\n' ∉ Text.ofInt n := by
  cases n with
  | ofNat n => exact newline_not_mem_ofNat n
  | negSucc n => simp [ofInt, newline_not_mem_ofNat]

namespace Anchors

theorem exists_candidate (used : List Text) (base : Text) (tries n : Nat) :
    ∃ m, firstFree used base tries n = candidate base m := by
  induction tries generalizing n with
  | zero => exact ⟨n, rfl⟩
  | succ tries ih =>
    rw [firstFree]
    split
    · exact ih _
    · exact ⟨n, rfl⟩

theorem newline_not_mem_next (heading : Text) (a : Anchors) : '\n' ∉ (a.next heading).1 := by
  obtain ⟨m, hm⟩ := exists_candidate a.used (slug heading) a.used.length 0
  have hslug := newline_not_mem_slug heading
  rw [next_eq_firstFree, hm]
  cases m with
  | zero => exact hslug
  | succ m => simp [candidate, hslug, Text.newline_not_mem_ofInt]

theorem newline_not_mem_assign {a : Anchors} {headings : List Text} :
    ∀ anchor ∈ a.assign headings, '\n' ∉ anchor := by
  induction headings generalizing a with
  | nil => simp [assign]
  | cons heading headings ih =>
    intro anchor h
    rcases List.mem_cons.mp h with rfl | h
    · exact newline_not_mem_next heading a
    · exact ih anchor h

theorem length_assign (a : Anchors) (headings : List Text) :
    (a.assign headings).length = headings.length := by
  induction headings generalizing a with
  | nil => rfl
  | cons heading headings ih => rw [assign, List.length_cons, ih, List.length_cons]

end Anchors

end StyleGuide
