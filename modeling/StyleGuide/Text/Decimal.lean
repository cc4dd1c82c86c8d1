import StyleGuide.Text.Basic

/-!
Numbers in decimal digits. What is written reads back as the same number.
-/

namespace StyleGuide.Text

def isDigit (c : Char) : Bool := 48 ≤ c.toNat && c.toNat ≤ 57

/-- The digit of a number below ten. -/
def digit (n : Nat) : Char := Char.ofNat (48 + n)

def ofNat (n : Nat) : Text :=
  if n < 10 then [digit n] else ofNat (n / 10) ++ [digit (n % 10)]

/-- A number with its sign if it is below zero. -/
def ofInt : Int → Text
  | .ofNat n => ofNat n
  | .negSucc n => '-' :: ofNat (n + 1)

/-- The number that digits spell. -/
def decimal (digits : Text) : Nat := digits.foldl (fun n c => n * 10 + (c.toNat - 48)) 0

/-- The first number that takes more than 64 bits. -/
def wordLimit : Nat := 18446744073709551616

/-- The number of at most 64 bits that a text spells with digits alone. -/
def word? (t : Text) : Option Nat :=
  if t.isEmpty || !t.all isDigit then none
  else if decimal t < wordLimit then some (decimal t)
  else none

theorem toNat_digit {n : Nat} (h : n < 10) : (digit n).toNat = 48 + n := by
  revert n
  decide

theorem decimal_ofNat (n : Nat) : decimal (ofNat n) = n := by
  fun_induction ofNat n with
  | case1 n h => simp [decimal, toNat_digit h]
  | case2 n h ih =>
    have hd := toNat_digit (Nat.mod_lt n (by omega : 0 < 10))
    rw [decimal] at ih
    rw [decimal, List.foldl_append, ih]
    simp only [List.foldl_cons, List.foldl_nil, hd]
    omega

end StyleGuide.Text
