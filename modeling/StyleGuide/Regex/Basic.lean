import StyleGuide.CharSet
import StyleGuide.Regex.Span

/-!
Regular expressions by what they match.
-/

namespace StyleGuide

namespace Regex

/-- How lines are told apart at a place in a text. -/
inductive LineEnd where
  | newline
  /-- A newline, a carriage return, or both as one. -/
  | crlf
  deriving DecidableEq, Repr

/-- Conditions on the characters before and after a place in a text. -/
inductive Look where
  | start
  | stop
  | lineStart (e : LineEnd)
  | lineStop (e : LineEnd)
  /-- A character of the set on one side, and none on the other. -/
  | boundary (word : CharSet)
  | notBoundary (word : CharSet)
  | wordStart (word : CharSet)
  | wordStop (word : CharSet)
  | wordStartHalf (word : CharSet)
  | wordStopHalf (word : CharSet)
  deriving DecidableEq, Repr

/-- Whether a condition holds between two characters; nothing stands for the end of the text. -/
def Look.holds (before after : Option Char) : Look → Bool
  | start => before.isNone
  | stop => after.isNone
  | lineStart .newline => before.isNone || before = some '\n'
  | lineStart .crlf =>
    before.isNone || before = some '\n' || (before = some '\r' && after != some '\n')
  | lineStop .newline => after.isNone || after = some '\n'
  | lineStop .crlf =>
    after.isNone || after = some '\r' || (after = some '\n' && before != some '\r')
  | boundary word => before.any word.contains != after.any word.contains
  | notBoundary word => before.any word.contains == after.any word.contains
  | wordStart word => !before.any word.contains && after.any word.contains
  | wordStop word => before.any word.contains && !after.any word.contains
  | wordStartHalf word => !before.any word.contains
  | wordStopHalf word => !after.any word.contains

end Regex

inductive Regex where
  | empty
  /-- The characters of a text, one behind the other. -/
  | literal (t : Text)
  /-- One character of the set. -/
  | one (set : CharSet)
  | look (l : Regex.Look)
  | seq (first second : Regex)
  | alt (first second : Regex)
  /-- At least so many times, and at most so many if there is a limit. A greedy one would rather go
  on than stop, which does not change where it can match. -/
  | times (least : Nat) (most : Option Nat) (greedy : Bool) (inner : Regex)
  /-- A part that a group keeps. Groups are told apart by the places where they open. -/
  | capture (opening : Regex.Position) (inner : Regex)
  deriving DecidableEq, Repr

namespace Regex

/-! A text is matched by marks on its places. A place is marked if a match can have come to it, and
an expression moves the marks to where its own matches end. -/

/-- A place in a text, by the characters before and after it. -/
structure Place where
  before : Option Char
  after : Option Char

/-- The places of a text behind a character. -/
def placesAfter (before : Option Char) : Text → List Place
  | [] => [⟨before, none⟩]
  | c :: t => ⟨before, some c⟩ :: placesAfter (some c) t

def places (t : Text) : List Place := placesAfter none t

/-- Moves marks over one character of a set. The mark in front says whether a match comes to the
first place. -/
def advance (set : CharSet) (first : Bool) : List Place → List Bool → List Bool
  | p :: places, m :: marks =>
    first :: advance set (m && p.after.any set.contains) places marks
  | _, _ => []

/-- Keeps the marks on places where a condition holds. -/
def keep (l : Look) : List Place → List Bool → List Bool
  | p :: places, m :: marks => (m && l.holds p.before p.after) :: keep l places marks
  | _, _ => []

def join (marks more : List Bool) : List Bool := marks.zipWith or more

/-- Moves marks a fixed number of times, or until they stay. -/
def repeatExactly (f : List Bool → List Bool) : Nat → List Bool → List Bool
  | 0, marks => marks
  | n + 1, marks =>
    let next := f marks
    if next = marks then marks else repeatExactly f n next

/-- Moves marks up to a number of times and keeps those of all turns, until nothing new comes. -/
def repeatUpTo (f : List Bool → List Bool) : Nat → List Bool → List Bool
  | 0, marks => marks
  | n + 1, marks =>
    let more := join marks (f marks)
    if more = marks then marks else repeatUpTo f n more

/-- Moves marks from where matches begin to where they end. Each turn of a repetition without a
limit marks a new place, so there are no more turns than places. -/
def move (places : List Place) : Regex → List Bool → List Bool
  | empty, marks => marks
  | literal t, marks =>
    t.foldl (fun marks c => advance (.range c.toNat c.toNat) false places marks) marks
  | one set, marks => advance set false places marks
  | look l, marks => keep l places marks
  | seq a b, marks => b.move places (a.move places marks)
  | alt a b, marks => join (a.move places marks) (b.move places marks)
  | times least most _ a, marks =>
    let marks := repeatExactly (a.move places) least marks
    repeatUpTo (a.move places)
      (match most with
        | some n => n - least
        | none => places.length) marks
  | capture _ a, marks => a.move places marks

/-- Whether the expression matches some part of the text. -/
def matchesWithin (r : Regex) (t : Text) : Bool :=
  let places := places t
  (r.move places (places.map fun _ => true)).any id

end Regex

end StyleGuide
