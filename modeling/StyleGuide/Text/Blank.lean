/-!
Blank characters: the Unicode property `White_Space`.
-/

namespace StyleGuide.Text

/-- The characters with the property `White_Space`. The control characters U+001C to U+001F, the
zero-width spaces and the byte order mark are not among them. -/
def isBlank (c : Char) : Bool :=
  let n := c.toNat
  (9 ≤ n && n ≤ 13) || n == 0x20 || n == 0x85 || n == 0xA0 || n == 0x1680 ||
    (0x2000 ≤ n && n ≤ 0x200A) || n == 0x2028 || n == 0x2029 || n == 0x202F || n == 0x205F ||
    n == 0x3000

end StyleGuide.Text
