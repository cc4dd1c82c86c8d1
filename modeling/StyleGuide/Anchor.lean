import StyleGuide.Text.Decimal
import StyleGuide.Text.Letter
import StyleGuide.Text.Lowercase

/-!
Anchors of headings. Each heading of a document has an anchor of its own, made from its slug.
-/

namespace StyleGuide

/-- A heading's slug: its lower case, of which letters, numbers, spaces and hyphens stay, with
hyphens for the spaces. -/
def slug (heading : Text) : Text :=
  ((Text.lowercase heading).filter fun c => Text.isAlphanumeric c || c = ' ' || c = '-').map
    fun c => if c = ' ' then '-' else c

/-- The anchors that a document has given out so far. -/
structure Anchors where
  used : List Text := []

namespace Anchors

/-- The first number that a counter of 32 bits with a sign cannot hold. -/
def counterLimit : Nat := 2147483648

/-- The candidates for an anchor, in the order in which they are tried. A counter of 32 bits with a
sign is behind the slug; it goes on with its least number after its greatest. -/
def candidate (base : Text) : Nat → Text
  | 0 => base
  | n + 1 => base ++ '-' :: Text.ofInt (Int32.ofNat (n + 1)).toInt

/-- The slug with any number behind it, and by itself for zero. -/
def suffixed (base : Text) : Nat → Text
  | 0 => base
  | n + 1 => base ++ '-' :: Text.ofNat (n + 1)

theorem candidate_eq_suffixed (base : Text) {n : Nat} (h : n < counterLimit) :
    candidate base n = suffixed base n := by
  cases n with
  | zero => rfl
  | succ n => rw [candidate, suffixed, Int32.toInt_ofNat_of_lt h]; rfl

theorem suffixed_injective (base : Text) {m n : Nat} (h : suffixed base m = suffixed base n) :
    m = n := by
  cases m with
  | zero =>
    cases n with
    | zero => rfl
    | succ n => simp [suffixed] at h
  | succ m =>
    cases n with
    | zero => simp [suffixed] at h
    | succ n =>
      simp only [suffixed, List.append_cancel_left_eq, List.cons.injEq, true_and] at h
      rw [← Text.decimal_ofNat (m + 1), h, Text.decimal_ofNat]

theorem candidate_injective (base : Text) {m n : Nat} (hm : m < counterLimit)
    (hn : n < counterLimit) (h : candidate base m = candidate base n) : m = n := by
  rw [candidate_eq_suffixed base hm, candidate_eq_suffixed base hn] at h
  exact suffixed_injective base h

theorem isPrefixOf_candidate (base : Text) (n : Nat) : base.isPrefixOf (candidate base n) := by
  cases n <;> simp [candidate]

/-- The first candidate from the `n`-th on that is not in `used`, with `tries` to find it. -/
def firstFree (used : List Text) (base : Text) : (tries n : Nat) → Text
  | 0, n => candidate base n
  | tries + 1, n =>
    if candidate base n ∈ used then firstFree used base tries (n + 1) else candidate base n

/-- The same search in a list that loses each candidate that was found in it. Where candidates
stand in the order in which they are tried, each is found at the front. -/
def searchFree (base : Text) : (tries n : Nat) → (listed : List Text) → Text
  | 0, n, _ => candidate base n
  | tries + 1, n, listed =>
    if candidate base n ∈ listed then
      searchFree base tries (n + 1) (listed.erase (candidate base n))
    else candidate base n

theorem searchFree_eq_firstFree {base : Text} {used : List Text} (tries n : Nat)
    (listed : List Text) (hlimit : n + tries < counterLimit)
    (h : ∀ m, n ≤ m → m ≤ n + tries → (candidate base m ∈ listed ↔ candidate base m ∈ used)) :
    searchFree base tries n listed = firstFree used base tries n := by
  induction tries generalizing n listed with
  | zero => rfl
  | succ tries ih =>
    simp only [searchFree, firstFree, h n (Nat.le_refl n) (by omega)]
    split
    · refine ih _ _ (by omega) fun m hm hlast => ?_
      have hne : candidate base m ≠ candidate base n := fun he => by
        have := candidate_injective base (by omega) (by omega) he
        omega
      rw [List.mem_erase_of_ne hne, h m (by omega) (by omega)]
    · rfl

/-- Gives out the anchor of the next heading. There is one more try than there are used anchors. -/
def next (heading : Text) (a : Anchors) : Text × Anchors :=
  let base := slug heading
  let anchor :=
    if a.used.length < counterLimit then
      searchFree base a.used.length 0 (a.used.reverse.filter base.isPrefixOf)
    else firstFree a.used base a.used.length 0
  (anchor, ⟨anchor :: a.used⟩)

theorem next_eq_firstFree (heading : Text) (a : Anchors) :
    (a.next heading).1 = firstFree a.used (slug heading) a.used.length 0 := by
  simp only [next]
  split
  · next h =>
    refine searchFree_eq_firstFree _ _ _ (by omega) fun m _ _ => ?_
    simp [List.mem_filter, isPrefixOf_candidate]
  · rfl

/-- The anchors of all headings, in their order. -/
def assign (a : Anchors) : List Text → List Text
  | [] => []
  | heading :: rest => (a.next heading).1 :: assign (a.next heading).2 rest

end Anchors

/-- An entry of an index: a link to the anchor, two spaces further in for each level. -/
def indexItem (title anchor : Text) (depth : Nat) : Text :=
  List.replicate (2 * depth) ' ' ++ "* [".toList ++ title ++ "](#".toList ++ anchor ++ [')']

end StyleGuide
