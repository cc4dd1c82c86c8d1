import StyleGuide.CharSet

/-!
Characters as bytes. A set of characters is cut into parts, each of which allows any byte of a
range at each place of its form in UTF-8.
-/

namespace StyleGuide.Regex.Automaton

/-- The bytes of a code point, by the length of its form. -/
def bytesOf (n : Nat) : List Nat :=
  if n < 0x80 then [n]
  else if n < 0x800 then [0xC0 + n / 64, 0x80 + n % 64]
  else if n < 0x10000 then [0xE0 + n / 4096, 0x80 + n / 64 % 64, 0x80 + n % 64]
  else [0xF0 + n / 262144, 0x80 + n / 4096 % 64, 0x80 + n / 64 % 64, 0x80 + n % 64]

def textBytes (t : Text) : List Nat := t.flatMap fun c => bytesOf c.toNat

/-- For each byte of a form, the first and the last one that are allowed. -/
abbrev ByteRanges := List (Nat × Nat)

/-- Where a range of code points has to be cut to get ranges of bytes: the last code point of the
first part. -/
def cutPoint? (first last : Nat) : Option Nat :=
  if first < 0xD800 ∧ 0xD800 ≤ last then some 0xD7FF
  else match [0x7F, 0x7FF, 0xFFFF].find? fun m => first ≤ m && m < last with
    | some m => some m
    | none =>
      if last < 0x80 then none
      else [64, 4096, 262144].findSome? fun size =>
        if first / size = last / size then none
        else if first % size ≠ 0 then some (first / size * size + size - 1)
        else if last % size ≠ size - 1 then some (last / size * size - 1)
        else none

/-- The parts of a range of code points, with so many cuts in a row. Surrogates have no form. -/
def byteRanges : (cuts first last : Nat) → List ByteRanges
  | 0, _, _ => []
  | cuts + 1, first, last =>
    let first := if CharSet.isSurrogate first then 0xE000 else first
    if last < first then []
    else match cutPoint? first last with
      | some m => byteRanges cuts first m ++ byteRanges cuts (m + 1) last
      | none => [(bytesOf first).zip (bytesOf last)]

/-- The parts of a set, in ascending order. -/
def setRanges (s : CharSet) : List ByteRanges := s.ranges.flatMap fun r => byteRanges 32 r.1 r.2

end StyleGuide.Regex.Automaton
