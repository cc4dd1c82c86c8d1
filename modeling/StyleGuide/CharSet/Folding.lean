import StyleGuide.CharSet.Property
import StyleGuide.Text.Lowercase

/-!
Sets without regard to case: with a letter come its other forms.
-/

namespace StyleGuide.CharSet

/-- Letters that are their own lower case, and the letters that they are another form of. -/
def letterForms : List (Nat × Nat) := [
  (0xB5, 0x3BC), (0x17F, 0x73), (0x345, 0x3B9), (0x3C2, 0x3C3), (0x3D0, 0x3B2), (0x3D1, 0x3B8),
  (0x3D5, 0x3C6), (0x3D6, 0x3C0), (0x3F0, 0x3BA), (0x3F1, 0x3C1), (0x3F5, 0x3B5), (0x1C80, 0x432),
  (0x1C81, 0x434), (0x1C82, 0x43E), (0x1C83, 0x441), (0x1C84, 0x442), (0x1C85, 0x442),
  (0x1C86, 0x44A), (0x1C87, 0x463), (0x1C88, 0xA64B), (0x1E9B, 0x1E61), (0x1FBE, 0x3B9),
  (0x1FD3, 0x390), (0x1FE3, 0x3B0), (0xFB05, 0xFB06)]

/-- Code points with the letters that stand for all their forms. A letter that stands for others is
not in the first place of a pair, and code points without a category are in none. -/
def casePairs : List (Nat × Nat) :=
  let pairs := letterForms ++ Text.lowercaseRuns.flatMap fun (first, last, step, image) =>
    (List.range ((last - first) / step + 1)).map fun i => (first + i * step, image + i * step)
  pairs.filter fun p => !within p.1 unassigned.ranges

def asciiCasePairs : List (Nat × Nat) := (List.range 26).map fun i => (65 + i, 97 + i)

/-- The set with all forms of its letters. -/
def foldedBy (pairs : List (Nat × Nat)) (s : CharSet) : CharSet :=
  let touched := pairs.filter fun p => within p.1 s.ranges || within p.2 s.ranges
  let heads := ofRanges (touched.map fun p => (p.2, p.2))
  let forms := pairs.filter fun p => within p.2 heads.ranges
  ofRanges (s.ranges ++ heads.ranges ++ forms.map fun p => (p.1, p.1))

def folded (s : CharSet) : CharSet := s.foldedBy casePairs

def asciiFolded (s : CharSet) : CharSet := s.foldedBy asciiCasePairs

end StyleGuide.CharSet
