import StyleGuide.Text.Decimal

namespace StyleGuide.Text

theorem ofNat_ne_nil (n : Nat) : ofNat n ≠ [] := by
  rw [ofNat]
  split <;> simp

theorem isDigit_digit {n : Nat} (h : n < 10) : isDigit (digit n) = true := by
  have hlow : 48 ≤ 48 + n := Nat.le_add_right 48 n
  have hhigh : 48 + n ≤ 57 := by omega
  rw [isDigit, toNat_digit h, decide_eq_true hlow, decide_eq_true hhigh]
  rfl

theorem isDigit_ofNat (n : Nat) : ∀ c ∈ ofNat n, isDigit c = true := by
  fun_induction ofNat n with
  | case1 n h => exact List.forall_mem_singleton.mpr (isDigit_digit h)
  | case2 n h ih =>
    rw [List.forall_mem_append]
    exact ⟨ih, List.forall_mem_singleton.mpr (isDigit_digit (Nat.mod_lt n (by omega)))⟩

theorem head?_ofNat {n : Nat} (h : n ≠ 0) : (ofNat n).head? ≠ some '0' := by
  fun_induction ofNat n with
  | case1 n hn =>
    intro hhead
    have hdigit := toNat_digit hn
    rw [Option.some.inj hhead] at hdigit
    have hzero : '0'.toNat = 48 := rfl
    omega
  | case2 n hn ih =>
    obtain ⟨d, ds, hds⟩ := List.exists_cons_of_ne_nil (ofNat_ne_nil (n / 10))
    rw [hds] at ih ⊢
    exact ih (by omega)

theorem word?_ofNat {n : Nat} (h : n < wordLimit) : word? (ofNat n) = some n := by
  have hdigits : (ofNat n).all isDigit = true := List.all_eq_true.mpr (isDigit_ofNat n)
  have hempty : (ofNat n).isEmpty = false := List.isEmpty_eq_false_iff.mpr (ofNat_ne_nil n)
  have hlimit : decimal (ofNat n) < wordLimit := by
    rw [decimal_ofNat]
    exact h
  rw [word?, hdigits, hempty, if_neg (by decide), if_pos hlimit, decimal_ofNat]

end StyleGuide.Text
