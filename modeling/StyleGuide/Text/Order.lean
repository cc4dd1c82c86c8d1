import StyleGuide.Text.Basic

/-!
The order of texts by code point. It is a strict total order.
-/

namespace StyleGuide.Text

/-- Whether a text comes before another one. A text comes before those that continue it. -/
def precedes : Text → Text → Bool
  | _, [] => false
  | [], _ :: _ => true
  | a :: s, b :: t => if a = b then precedes s t else a.toNat < b.toNat

/-- Whether a text does not come after another one. -/
def atMost (s t : Text) : Bool := !precedes t s

theorem precedes_irrefl (s : Text) : precedes s s = false := by
  induction s with
  | nil => rfl
  | cons a s ih => simpa [precedes] using ih

theorem precedes_trans {s t u : Text} (hst : precedes s t) (htu : precedes t u) :
    precedes s u := by
  induction s generalizing t u with
  | nil =>
    cases u with
    | nil => cases t <;> simp [precedes] at htu
    | cons c u => rfl
  | cons a s ih =>
    cases t with
    | nil => simp [precedes] at hst
    | cons b t =>
      cases u with
      | nil => simp [precedes] at htu
      | cons c u =>
        by_cases hab : a = b
        · subst hab
          by_cases hac : a = c
          · subst hac
            simp only [precedes, ↓reduceIte] at hst htu ⊢
            exact ih hst htu
          · simpa [precedes, hac] using htu
        · by_cases hbc : b = c
          · subst hbc
            simpa [precedes, hab] using hst
          · simp only [precedes, hab, hbc, ↓reduceIte, decide_eq_true_eq] at hst htu ⊢
            have hac : a ≠ c := fun h => by subst h; omega
            simp only [hac, ↓reduceIte, decide_eq_true_eq]
            omega

theorem eq_of_not_precedes {s t : Text} (hst : precedes s t = false)
    (hts : precedes t s = false) : s = t := by
  induction s generalizing t with
  | nil => cases t <;> simp_all [precedes]
  | cons a s ih =>
    cases t with
    | nil => simp [precedes] at hts
    | cons b t =>
      by_cases hab : a = b
      · subst hab
        simp only [precedes, ↓reduceIte] at hst hts
        rw [ih hst hts]
      · simp only [precedes, hab, Ne.symm hab, ↓reduceIte, decide_eq_false_iff_not] at hst hts
        exact absurd (Char.toNat_inj.1 (by omega)) hab

end StyleGuide.Text
