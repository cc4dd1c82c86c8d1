import StyleGuide.Text.Basic

/-!
Text without terminal control: escape sequences are left away, and so are control characters other
than blanks.
-/

namespace StyleGuide.Log

/-- Where in an escape sequence a character stands. -/
inductive Control where
  | outside
  /-- Behind the escape character. -/
  | escape
  /-- Behind an escape character and characters between space and slash. -/
  | middle
  /-- In a control sequence, which a letter or the like ends. -/
  | sequence
  /-- In a command to the operating system, which a bell ends. -/
  | command
  /-- At the start of a device control string. -/
  | device
  /-- In the parameters of a device control string. -/
  | parameters
  /-- Behind the parameters of a device control string, before its body. -/
  | header
  /-- In another string, or in the body of a device control string. The byte `0x9C` ends it. -/
  | string
  deriving DecidableEq, Repr

/-- The blanks among the control characters. -/
def isControlBlank (n : Nat) : Bool := n == 9 || n == 10 || n == 12 || n == 13

/-- What follows the escape character. -/
def afterEscape (n : Nat) : Control :=
  if n = 0x5B then .sequence
  else if n = 0x5D then .command
  else if n = 0x50 then .device
  else if n = 0x58 ∨ n = 0x5E ∨ n = 0x5F then .string
  else if 0x20 ≤ n ∧ n ≤ 0x2F then .middle
  else if 0x30 ≤ n ∧ n ≤ 0x7E then .outside
  else .escape

/-- Where a character leads from a place before the body of a device control string. -/
def afterDevice (s : Control) (n : Nat) : Control :=
  if 0x20 ≤ n ∧ n ≤ 0x2F then .header
  else if 0x30 ≤ n ∧ n ≤ 0x3B then (if s = .header then .string else .parameters)
  else if 0x3C ≤ n ∧ n ≤ 0x3F then (if s = .device then .parameters else .string)
  else if 0x40 ≤ n ∧ n ≤ 0x7E then .string
  else s

/-- Whether a character is written with the byte that ends a string. -/
def endsString (c : Char) : Bool := (String.utf8EncodeChar c).contains 0x9C

/-- The state behind a character that is not shown. -/
def Control.next (s : Control) (c : Char) : Control :=
  let n := c.toNat
  if n = 0x18 ∨ n = 0x1A then .outside
  else if n = 0x1B then .escape
  else match s with
    | .outside => .outside
    | .escape => afterEscape n
    | .middle => if 0x30 ≤ n ∧ n ≤ 0x7E then .outside else .middle
    | .sequence => if 0x40 ≤ n ∧ n ≤ 0x7E then .outside else .sequence
    | .command => if n = 7 then .outside else .command
    | .device | .parameters | .header => afterDevice s n
    | .string => if endsString c then .outside else .string

/-- Whether a character is shown in a state. -/
def Control.shows (s : Control) (n : Nat) : Bool :=
  match s with
  | .outside => isControlBlank n || (0x20 ≤ n && n != 0x7F)
  | .escape | .middle | .sequence => isControlBlank n
  | .command | .device | .parameters | .header | .string => false

/-- What is shown of a text from a state on. A shown character makes what follows it `visible`, as
if outside of any sequence, up to the next control character. That one is taken in the state from
before, unless a character that is not ASCII came in between. -/
def plainFrom (visible : Bool) (s : Control) : Text → Text
  | [] => []
  | c :: t =>
    if (if visible then .outside else s : Control).shows c.toNat then
      c :: plainFrom true (if c.toNat < 0x80 then s else .outside) t
    else plainFrom false (s.next c) t

def plain (t : Text) : Text := plainFrom false .outside t

end StyleGuide.Log
