import StyleGuide.Proofs.Anchor.Unique
import StyleGuide.Proofs.Dict

namespace StyleGuide.Anchors

/-- The anchors given out so far, each with the number that was last tried behind it. -/
abbrev Counters := Dict Nat

/-- While `r` is a key, the counter of `base` goes up by one and `r` becomes `base` with that
number. The loop starts from the counters `m` and the anchor `r` and ends with `m'` and `r'`. -/
inductive CountsUp (base : Text) : Counters → Text → Counters → Text → Prop
  | done {m : Counters} {r : Text} (h : r ∉ m.keys) : CountsUp base m r m r
  | again {m m' : Counters} {r r' : Text} {count : Nat} (h : r ∈ m.keys)
      (hcount : m.get? base = some count)
      (hrest : CountsUp base (m.insert base (count + 1)) (base ++ '-' :: Text.ofNat (count + 1))
        m' r') :
      CountsUp base m r m' r'

/-- The anchors of the headings when each is found by counting up from where its slug's counter
stands. -/
inductive CountsOut : Counters → (headings anchors : List Text) → Prop
  | nil {m : Counters} : CountsOut m [] []
  | cons {m m' : Counters} {heading r : Text} {headings anchors : List Text}
      (h : CountsUp (slug heading) m (slug heading) m' r)
      (hrest : CountsOut (m'.insert r 0) headings anchors) :
      CountsOut m (heading :: headings) (r :: anchors)

theorem CountsUp.unique {base : Text} {m m₁ m₂ : Counters} {r r₁ r₂ : Text}
    (h₁ : CountsUp base m r m₁ r₁) (h₂ : CountsUp base m r m₂ r₂) : m₁ = m₂ ∧ r₁ = r₂ := by
  induction h₁ generalizing m₂ r₂ with
  | done hnew =>
    cases h₂ with
    | done _ => exact ⟨rfl, rfl⟩
    | again hkey _ _ => exact absurd hkey hnew
  | again hkey hcount _ ih =>
    cases h₂ with
    | done hnew => exact absurd hkey hnew
    | again _ hcount' hrest' =>
      obtain rfl := Option.some.inj (hcount.symm.trans hcount')
      exact ih hrest'

theorem CountsOut.unique {m : Counters} {headings anchors₁ anchors₂ : List Text}
    (h₁ : CountsOut m headings anchors₁) (h₂ : CountsOut m headings anchors₂) :
    anchors₁ = anchors₂ := by
  induction h₁ generalizing anchors₂ with
  | nil =>
    cases h₂
    rfl
  | cons hup _ ih =>
    cases h₂ with
    | cons hup' hrest' =>
      obtain ⟨rfl, rfl⟩ := hup.unique hup'
      rw [ih hrest']

/-- The keys are the anchors in use, and what a counter has passed is in use. -/
structure Tells (m : Counters) (used : List Text) : Prop where
  keys : ∀ anchor, anchor ∈ m.keys ↔ anchor ∈ used
  passed : ∀ base count, m.get? base = some count → ∀ i < count, suffixed base (i + 1) ∈ used

theorem Tells.mem {m : Counters} {used : List Text} (h : Tells m used) {base : Text} {count : Nat}
    (hcount : m.get? base = some count) : base ∈ used :=
  (h.keys base).mp (Dict.mem_keys_iff.mpr ⟨count, hcount⟩)

theorem mem_keys_insert {m : Counters} {key anchor : Text} {count : Nat} :
    anchor ∈ (m.insert key count).keys ↔ anchor = key ∨ anchor ∈ m.keys := by
  rw [Dict.mem_keys_iff, Dict.mem_keys_iff]
  by_cases h : anchor = key <;> simp [h]

theorem Tells.count {m : Counters} {used : List Text} (h : Tells m used) {base : Text}
    {count : Nat} (hcount : m.get? base = some count)
    (hused : suffixed base (count + 1) ∈ used) : Tells (m.insert base (count + 1)) used := by
  refine ⟨fun anchor => ?_, fun b k hk i hi => ?_⟩
  · rw [mem_keys_insert, ← h.keys, or_iff_right_of_imp]
    rintro rfl
    exact (h.keys _).mpr (h.mem hcount)
  · rw [Dict.get?_insert] at hk
    split at hk
    · next hb =>
      subst hb
      obtain rfl := Option.some.inj hk
      rcases Nat.lt_succ_iff_lt_or_eq.mp hi with hlt | rfl
      · exact h.passed b count hcount i hlt
      · exact hused
    · exact h.passed b k hk i hi

theorem Tells.give {m : Counters} {used : List Text} (h : Tells m used) (anchor : Text) :
    Tells (m.insert anchor 0) (anchor :: used) := by
  refine ⟨fun other => ?_, fun b k hk i hi => ?_⟩
  · rw [mem_keys_insert, h.keys, List.mem_cons]
  · rw [Dict.get?_insert] at hk
    split at hk
    · obtain rfl := Option.some.inj hk
      exact absurd hi (Nat.not_lt_zero i)
    · exact List.mem_cons_of_mem _ (h.passed b k hk i hi)

theorem Tells.exists_countsUp {m : Counters} {used : List Text} (h : Tells m used) {base r : Text}
    (hr : r ∈ m.keys) {count : Nat} (hcount : m.get? base = some count) (left : Nat)
    (hfirst : IsFirstFree used base (count + left + 1)) :
    ∃ m', CountsUp base m r m' (suffixed base (count + left + 1)) ∧
      Tells (m'.insert (suffixed base (count + left + 1)) 0)
        (suffixed base (count + left + 1) :: used) := by
  -- The counter stands below the first free number; `left` is how far.
  induction left generalizing m r count with
  | zero =>
    have hne : base ≠ suffixed base (count + 1) := fun he =>
      absurd (suffixed_injective base (m := 0) he) (by omega)
    have hnew : suffixed base (count + 1) ∉ (m.insert base (count + 1)).keys := by
      rw [mem_keys_insert, h.keys, not_or]
      exact ⟨hne.symm, hfirst.1⟩
    refine ⟨m.insert base (count + 1), .again hr hcount (.done hnew), ?_⟩
    rw [Nat.add_zero, Dict.insert_comm m hne]
    apply (h.give (suffixed base (count + 1))).count
    · rw [Dict.get?_insert, if_neg hne, hcount]
    · exact List.mem_cons_self
  | succ left ih =>
    have hnext : suffixed base (count + 1) ∈ used := hfirst.2 _ (by omega)
    have htells := h.count hcount hnext
    have hsum : count + (left + 1) + 1 = count + 1 + left + 1 := by omega
    rw [hsum] at hfirst ⊢
    obtain ⟨m', hup, htells'⟩ := ih htells ((htells.keys _).mpr hnext)
      (by rw [Dict.get?_insert, if_pos rfl]) hfirst
    exact ⟨m', .again hr hcount hup, htells'⟩

theorem Tells.lt_of_isFirstFree {m : Counters} {used : List Text} (h : Tells m used) {base : Text}
    {count : Nat} (hcount : m.get? base = some count) {n : Nat} (hfirst : IsFirstFree used base n) :
    count < n := by
  by_contra hle
  cases n with
  | zero => exact hfirst.1 (h.mem hcount)
  | succ n => exact hfirst.1 (h.passed base count hcount n (by omega))

theorem Tells.next {m : Counters} {a : Anchors} (h : Tells m a.used) {heading : Text}
    (hleft : ¬ Exhausted a.used (slug heading)) :
    ∃ m', CountsUp (slug heading) m (slug heading) m' (a.next heading).1 ∧
      Tells (m'.insert (a.next heading).1 0) (a.next heading).2.used := by
  have hused : (a.next heading).2.used = (a.next heading).1 :: a.used := rfl
  obtain ⟨n, _, hfirst⟩ := exists_isFirstFree a.used (slug heading)
  rw [hused, hfirst.next_eq (hfirst.lt_counterLimit hleft)]
  by_cases hkey : slug heading ∈ m.keys
  · obtain ⟨count, hcount⟩ := Dict.mem_keys_iff.mp hkey
    obtain ⟨left, rfl⟩ := Nat.exists_eq_add_of_lt (h.lt_of_isFirstFree hcount hfirst)
    exact h.exists_countsUp hkey hcount left hfirst
  · have hzero : n = 0 := by
      by_contra hpos
      exact hkey ((h.keys _).mpr (hfirst.2 0 (Nat.pos_of_ne_zero hpos)))
    subst hzero
    exact ⟨m, .done hkey, h.give _⟩

end StyleGuide.Anchors
