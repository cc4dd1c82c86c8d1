/-!
Places in a pattern, by line and column.
-/

namespace StyleGuide.Regex

/-- A place in a pattern. Lines and columns are counted from one. -/
structure Position where
  line : Nat := 1
  column : Nat := 1
  deriving DecidableEq, Repr

namespace Position

/-- The place behind a character. -/
def after (p : Position) (c : Char) : Position :=
  if c = '\n' then ⟨p.line + 1, 1⟩ else ⟨p.line, p.column + 1⟩

def atMost (p q : Position) : Bool := p.line < q.line || (p.line = q.line && p.column ≤ q.column)

end Position

/-- A part of a pattern, from one place up to another. -/
structure Span where
  start : Position
  stop : Position
  deriving DecidableEq, Repr

namespace Span

/-- Whether a part begins before another one, or with it and does not end behind it. -/
def atMost (s t : Span) : Bool :=
  if s.start = t.start then s.stop.atMost t.stop else s.start.atMost t.start

def isOneLine (s : Span) : Bool := s.start.line = s.stop.line

end Span

end StyleGuide.Regex
