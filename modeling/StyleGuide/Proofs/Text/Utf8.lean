import Mathlib.Tactic.IntervalCases
import StyleGuide.Text.Utf8

namespace StyleGuide

namespace Text

theorem bytes_cons (c : Char) (t : Text) :
    bytes (c :: t) = String.utf8EncodeChar c ++ bytes t := List.flatMap_cons

@[simp] theorem bytes_append (s t : Text) : bytes (s ++ t) = bytes s ++ bytes t :=
  List.flatMap_append

theorem ofBytes?_toBytes (t : Text) : ofBytes? (toBytes t) = some t := by
  have hvalid : (toBytes t).IsValidUTF8 := (String.ofList t).isValidUTF8
  rw [ofBytes?, String.fromUTF8?, dif_pos hvalid]
  exact congrArg some String.toList_ofList

end Text

namespace Bytes

theorem first_two {v : Nat} (hlow : 2 ≤ v) (hhigh : v < 32) :
    first (v + 0xC0) = ([], some { value := v, more := 0 }) := by
  interval_cases v <;> rfl

theorem first_three {v : Nat} (h : v < 16) :
    first (v + 0xE0) = ([], some {
      value := v
      more := 1
      low := if v = 0 then 0xA0 else 0x80
      high := if v = 13 then 0x9F else 0xBF }) := by
  interval_cases v <;> rfl

theorem first_four {v : Nat} (h : v < 5) :
    first (v + 0xF0) = ([], some {
      value := v
      more := 2
      low := if v = 0 then 0x90 else 0x80
      high := if v = 4 then 0x8F else 0xBF }) := by
  interval_cases v <;> rfl

theorem shownFrom_cons (pending : Option Pending) {b : Nat} (hb : b < 256) (bs : Bytes) :
    shownFrom pending (UInt8.ofNat b :: bs) =
      (step pending b).1 ++ shownFrom (step pending b).2 bs := by
  rw [shownFrom, UInt8.toNat_ofNat', Nat.mod_eq_of_lt hb]

theorem shownFrom_last {p : Pending} {d : Nat} (hd : d < 64) (hmore : p.more = 0)
    (hlow : p.low ≤ d + 128) (hhigh : d + 128 ≤ p.high) (bs : Bytes) :
    shownFrom (some p) (UInt8.ofNat (d + 128) :: bs) =
      Char.ofNat (p.value * 64 + d) :: shownFrom none bs := by
  have hnext : next p (d + 128) = ([Char.ofNat (p.value * 64 + d)], none) := by
    simp only [next, hmore]
    rw [if_pos ⟨hlow, hhigh⟩, Nat.add_sub_cancel]
  rw [shownFrom_cons _ (by omega), step, hnext]
  rfl

theorem shownFrom_more {p : Pending} {d more : Nat} (hd : d < 64) (hmore : p.more = more + 1)
    (hlow : p.low ≤ d + 128) (hhigh : d + 128 ≤ p.high) (bs : Bytes) :
    shownFrom (some p) (UInt8.ofNat (d + 128) :: bs) =
      shownFrom (some { value := p.value * 64 + d, more := more }) bs := by
  have hnext : next p (d + 128) = ([], some { value := p.value * 64 + d, more := more }) := by
    simp only [next, hmore]
    rw [if_pos ⟨hlow, hhigh⟩, Nat.add_sub_cancel]
  rw [shownFrom_cons _ (by omega), step, hnext]
  rfl

/-- One character is read back, whatever follows it. -/
theorem shownFrom_encode (c : Char) (bs : Bytes) :
    shownFrom none (String.utf8EncodeChar c ++ bs) = c :: shownFrom none bs := by
  have hc : Char.ofNat c.val.toNat = c := Char.ofNat_toNat c
  have hvalid : c.val.toNat < 0xD800 ∨ 0xDFFF < c.val.toNat ∧ c.val.toNat < 0x110000 := c.valid
  simp only [String.utf8EncodeChar]
  generalize c.val.toNat = n at *
  split_ifs with h₁ h₂ h₃
  · have hfirst : first n = ([Char.ofNat n], none) := if_pos (by omega)
    rw [List.singleton_append, shownFrom_cons _ (by omega), step, hfirst, hc]
    rfl
  · have hn : n / 64 % 32 * 64 + n % 64 = n := by omega
    rw [List.cons_append, shownFrom_cons _ (by omega), step, first_two (by omega) (by omega),
      List.nil_append, List.singleton_append, shownFrom_last (by omega) rfl (by simp)
        (by dsimp only; omega)]
    simp only [hn, hc]
  · have hn : (n / 4096 % 16 * 64 + n / 64 % 64) * 64 + n % 64 = n := by omega
    rw [List.cons_append, shownFrom_cons _ (by omega), step, first_three (by omega),
      List.nil_append, List.cons_append,
      shownFrom_more (by omega) rfl (by dsimp only; split <;> omega)
        (by dsimp only; split <;> omega),
      List.singleton_append, shownFrom_last (by omega) rfl (by simp) (by dsimp only; omega)]
    simp only [hn, hc]
  · have hn : ((n / 262144 % 8 * 64 + n / 4096 % 64) * 64 + n / 64 % 64) * 64 + n % 64 = n := by
      omega
    rw [List.cons_append, shownFrom_cons _ (by omega), step, first_four (by omega),
      List.nil_append, List.cons_append,
      shownFrom_more (by omega) rfl (by dsimp only; split <;> omega)
        (by dsimp only; split <;> omega),
      List.cons_append, shownFrom_more (by omega) rfl (by simp) (by dsimp only; omega),
      List.singleton_append, shownFrom_last (by omega) rfl (by simp) (by dsimp only; omega)]
    simp only [hn, hc]

@[simp] theorem shown_bytes (t : Text) : shown (Text.bytes t) = t := by
  rw [shown]
  induction t with
  | nil => rfl
  | cons c t ih => rw [Text.bytes_cons, shownFrom_encode, ih]

theorem text?_eq_some_iff {bs : Bytes} {t : Text} : text? bs = some t ↔ bs = Text.bytes t := by
  rw [text?]
  constructor
  · intro h
    split at h
    · next hbs => rw [← Option.some.inj h, hbs]
    · cases h
  · rintro rfl
    rw [shown_bytes, if_pos rfl]

@[simp] theorem text?_bytes (t : Text) : text? (Text.bytes t) = some t := text?_eq_some_iff.mpr rfl

theorem bytes_shown {bs : Bytes} (h : ∃ t, bs = Text.bytes t) : Text.bytes (shown bs) = bs := by
  obtain ⟨t, rfl⟩ := h
  rw [shown_bytes]

theorem shown_of_text? {bs : Bytes} {t : Text} (h : text? bs = some t) : shown bs = t := by
  rw [text?_eq_some_iff.mp h, shown_bytes]

end Bytes

end StyleGuide
