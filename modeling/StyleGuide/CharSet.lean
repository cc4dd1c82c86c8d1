import StyleGuide.Text.Basic

/-!
Sets of characters, as ranges of code points.
-/

namespace StyleGuide

/-- A set of code points: ranges with both ends included, in ascending order and with gaps between
them. -/
structure CharSet where
  ranges : List (Nat × Nat)
  deriving DecidableEq, Repr

namespace CharSet

/-- The last code point. -/
def limit : Nat := 0x10FFFF

def empty : CharSet := ⟨[]⟩

/-- Joins a range with those behind it that overlap or touch it. -/
def absorb (r : Nat × Nat) : List (Nat × Nat) → List (Nat × Nat)
  | [] => [r]
  | s :: rest => if s.1 ≤ r.2 + 1 then absorb (r.1, max r.2 s.2) rest else r :: absorb s rest

/-- The set of the code points in some ranges, which may come in any order and overlap. -/
def ofRanges (rs : List (Nat × Nat)) : CharSet :=
  match rs.mergeSort fun a b => a.1 ≤ b.1 with
  | [] => empty
  | r :: rest => ⟨absorb r rest⟩

def range (first last : Nat) : CharSet := ⟨[(first, last)]⟩

def all : CharSet := range 0 limit

/-- The gaps between ranges in ascending order, from a code point on. -/
def gaps (start last : Nat) : List (Nat × Nat) → List (Nat × Nat)
  | [] => if start ≤ last then [(start, last)] else []
  | r :: rest =>
    if start < r.1 then (start, r.1 - 1) :: gaps (r.2 + 1) last rest else gaps (r.2 + 1) last rest

/-- The code points up to `last` that are not in the set. -/
def complementTo (last : Nat) (s : CharSet) : CharSet := ⟨gaps 0 last s.ranges⟩

def complement (s : CharSet) : CharSet := s.complementTo limit

def isSurrogate (n : Nat) : Bool := 0xD800 ≤ n && n ≤ 0xDFFF

/-- The range without surrogates at its ends. Surrogates are code points, and no characters. -/
def clip (r : Nat × Nat) : Nat × Nat :=
  (if isSurrogate r.1 then 0xE000 else r.1, if isSurrogate r.2 then 0xD7FF else r.2)

/-- The set with ranges that go from a character to a character. -/
def clipped (s : CharSet) : CharSet := ⟨(s.ranges.map clip).filter fun r => r.1 ≤ r.2⟩

/-- The characters that are not in the set. Where there is nothing but surrogates between two of its
ranges, the two characters next to them count as the gap. -/
def negation (s : CharSet) : CharSet :=
  (ofRanges ((gaps 0 limit s.clipped.ranges).map fun r =>
    if r = (0xD800, 0xDFFF) then (0xD7FF, 0xE000) else r)).clipped

def union (s t : CharSet) : CharSet := ofRanges (s.ranges ++ t.ranges)

def inter (s t : CharSet) : CharSet := (s.complement.union t.complement).complement

def diff (s t : CharSet) : CharSet := s.inter t.complement

def symmDiff (s t : CharSet) : CharSet := (s.union t).diff (s.inter t)

def unions (ss : List CharSet) : CharSet := ofRanges (ss.flatMap ranges)

/-- Whether a code point is in one of the ranges. -/
def within (n : Nat) : List (Nat × Nat) → Bool
  | [] => false
  | r :: rest => r.1 ≤ n && (n ≤ r.2 || within n rest)

def contains (s : CharSet) (c : Char) : Bool := within c.toNat s.ranges

def size (s : CharSet) : Nat := s.ranges.foldl (fun n r => n + (r.2 + 1 - r.1)) 0

/-- The code points of the set in ascending order. -/
def codePoints (s : CharSet) : List Nat :=
  s.ranges.flatMap fun r => (List.range (r.2 + 1 - r.1)).map fun i => r.1 + i

/-- Whether all code points of the set are ASCII. -/
def isAscii (s : CharSet) : Bool := s.ranges.all fun r => r.2 < 0x80

/-! Tables of ranges are written as words in base 36. A word is the gap in front of a range, then
the length of the range behind a dot if it is not one, then behind a star how often gap and range
are repeated. -/

def digitValue (c : Char) : Nat := if c.toNat < 0x3A then c.toNat - 0x30 else c.toNat - 0x57

def number (t : Text) : Nat := t.foldl (fun n c => n * 36 + digitValue c) 0

/-- The ranges that a gap and a length give from a code point on, the last one first. -/
def repeated (gap length : Nat) : (count start : Nat) → List (Nat × Nat) → List (Nat × Nat)
  | 0, _, found => found
  | count + 1, start, found =>
    repeated gap length count (start + gap + length)
      ((start + gap, start + gap + length - 1) :: found)

/-- Adds the ranges of one word to those found so far, the last one first. -/
def addWord (found : List (Nat × Nat)) (word : Text) : List (Nat × Nat) :=
  let start := match found with
    | [] => 0
    | r :: _ => r.2 + 1
  let (body, count) := match Text.cut? ['*'] word with
    | some (body, count) => (body, number count)
    | none => (word, 1)
  let (gap, length) := match Text.cut? ['.'] body with
    | some (gap, length) => (number gap, number length)
    | none => (number body, 1)
  repeated gap length count start found

/-- The set that a table writes down in some lines. -/
def ofTable (lines : List String) : CharSet :=
  ⟨((lines.flatMap fun line => Text.pieces ' ' line.toList).foldl addWord []).reverse⟩

end CharSet

end StyleGuide
