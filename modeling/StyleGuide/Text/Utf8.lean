import StyleGuide.Text.Basic

/-!
Names and paths are bytes, which spell texts in UTF-8 or spell none. Bytes are read one at a time;
where they spell no character, a replacement character stands in the text that is shown for them.
-/

namespace StyleGuide

abbrev Bytes := List UInt8

/-- The text in UTF-8. -/
def Text.bytes (t : Text) : Bytes := t.flatMap String.utf8EncodeChar

namespace Bytes

/-- What is shown for bytes that spell no character. -/
def replacement : Char := Char.ofNat 0xFFFD

/-- A character of which some bytes are still to come. -/
structure Pending where
  /-- The bits so far. -/
  value : Nat
  /-- How many bytes come after the next one. -/
  more : Nat
  /-- The next byte is not below this one. -/
  low : Nat := 0x80
  /-- The next byte is not above this one. -/
  high : Nat := 0xBF
  deriving DecidableEq, Repr

/-- Takes the first byte of a character. The bounds of the second byte keep out longer forms than
a character needs, surrogates, and numbers above all characters. -/
def first (b : Nat) : Text × Option Pending :=
  if b < 0x80 then ([Char.ofNat b], none)
  else if b < 0xC2 then ([replacement], none)
  else if b < 0xE0 then ([], some { value := b - 0xC0, more := 0 })
  else if b = 0xE0 then ([], some { value := 0, more := 1, low := 0xA0 })
  else if b = 0xED then ([], some { value := 0xD, more := 1, high := 0x9F })
  else if b < 0xF0 then ([], some { value := b - 0xE0, more := 1 })
  else if b = 0xF0 then ([], some { value := 0, more := 2, low := 0x90 })
  else if b < 0xF4 then ([], some { value := b - 0xF0, more := 2 })
  else if b = 0xF4 then ([], some { value := 4, more := 2, high := 0x8F })
  else ([replacement], none)

/-- Takes the next byte of a character. A byte that does not belong to it begins anew. -/
def next (p : Pending) (b : Nat) : Text × Option Pending :=
  if p.low ≤ b ∧ b ≤ p.high then
    let value := p.value * 64 + (b - 0x80)
    match p.more with
    | 0 => ([Char.ofNat value], none)
    | more + 1 => ([], some { value := value, more := more })
  else (replacement :: (first b).1, (first b).2)

def step : Option Pending → Nat → Text × Option Pending
  | none, b => first b
  | some p, b => next p b

/-- The text that is shown for the rest of the bytes. -/
def shownFrom (pending : Option Pending) : Bytes → Text
  | [] => if pending.isSome then [replacement] else []
  | b :: bs => (step pending b.toNat).1 ++ shownFrom (step pending b.toNat).2 bs

/-- The text that is shown for bytes. -/
def shown (bs : Bytes) : Text := shownFrom none bs

/-- The text that the bytes spell, if they spell one. -/
def text? (bs : Bytes) : Option Text :=
  if Text.bytes (shown bs) = bs then some (shown bs) else none

end Bytes

end StyleGuide
