import StyleGuide.Regex.Automaton.Utf8
import StyleGuide.Regex.Basic

/-!
What the matches of an expression begin with. If these starts are whole matches, and not too many,
the expression is searched for by them alone, and no automaton is built for it.
-/

namespace StyleGuide.Regex

open Automaton (bytesOf textBytes)

/-- The first bytes of a match, and whether they are all of it. -/
structure Start where
  bytes : List Nat
  isWhole : Bool := true
  deriving DecidableEq, Repr

namespace Start

/-- The start of a longer match. -/
def opened (s : Start) : Start := { s with isWhole := false }

/-- At most so many bytes of a start. -/
def cut (length : Nat) (s : Start) : Start :=
  ⟨s.bytes.take length, s.isWhole && s.bytes.length ≤ length⟩

end Start

/-- Starts in the order in which matches are preferred. -/
abbrev Starts := List Start

namespace Starts

/-- The start of what is not read yet. -/
def initial : Starts := [⟨[], true⟩]

def areOpen (ss : Starts) : Bool := ss.all (!·.isWhole)

/-- Puts a start in front of others. Two with the same bytes in a row are one. -/
def putFirst (s : Start) : Starts → Starts
  | [] => [s]
  | t :: ss => if s.bytes = t.bytes then ⟨s.bytes, s.isWhole && t.isWhole⟩ :: ss else s :: t :: ss

def squeezed (ss : Starts) : Starts := ss.foldr putFirst []

/-- The most starts that are kept. -/
def limit : Nat := 250

/-- The starts of one expression or another. There is no list if too many are left after they are
cut. -/
def union : Option Starts → Option Starts → Option Starts
  | some ss, some ts =>
    if ss.length + ts.length ≤ limit then some (squeezed (ss ++ ts))
    else
      let ss := squeezed (ss.map (Start.cut 4))
      let ts := squeezed (ts.map (Start.cut 4))
      if ss.length + ts.length ≤ limit then some (squeezed (ss ++ ts)) else none
  | _, _ => none

/-- The starts of an expression behind another one that has too many. -/
def openAll (ss : Starts) : Option Starts :=
  if ss.any (·.bytes.isEmpty) then none else some (ss.map Start.opened)

/-- The starts of an expression with another one behind it. -/
def product (ss : Starts) : Option Starts → Option Starts
  | none => openAll ss
  | some ts =>
    if ss.length * ts.length ≤ limit then
      some ((squeezed (ss.flatMap fun s =>
        if s.isWhole then ts.map fun t => ⟨s.bytes ++ t.bytes, t.isWhole⟩ else [s])).map
          (Start.cut 100))
    else openAll ss

/-- The starts with those of another expression behind them so many times, as long as some are
whole. -/
def power (ts : Option Starts) : Nat → Starts → Option Starts
  | 0, ss => some ss
  | n + 1, ss => if ss.areOpen then some ss else (product ss ts).bind (power ts n)

/-- The characters of a small set. -/
def ofSet (s : CharSet) : Option Starts :=
  if s.size ≤ 10 then some (s.codePoints.map fun n => ⟨bytesOf n, true⟩) else none

/-- The starts of a repeated expression. What may be left out comes last if it is greedy, and
otherwise first. Only the first ten times are looked at. -/
def times (least : Nat) (most : Option Nat) (greedy : Bool) (ts : Option Starts) :
    Option Starts :=
  if least = 0 then
    let ts := if most = some 1 then ts else ts.map fun ts => ts.map Start.opened
    if greedy then union ts (some initial) else union (some initial) ts
  else
    let ss := power ts (min least 10) initial
    if most = some least ∧ least ≤ 10 then ss else ss.map fun ss => ss.map Start.opened

/-- What an expression makes of the starts in front of it. -/
abbrev Step := Starts → Option Starts

/-- A choice, by its branches. -/
def choice : List Step → Step
  | [f] => f
  | fs => fun ss => product ss (fs.foldl (fun found f => union found (f initial)) (some []))

/-- One expression behind another one. Nothing changes starts that are not whole. -/
def seq (f g : Step) : Step := fun ss => (f ss).bind fun ss => if ss.areOpen then some ss else g ss

/-- What the branches of an expression make of starts; what is no choice is its only branch. -/
def branches : Regex → List Step
  | .empty | .look _ => [some]
  | .literal t => [fun ss => product ss (some [Start.cut 100 ⟨textBytes t, true⟩])]
  | .one s => [fun ss => product ss (ofSet s)]
  | .seq a b => [seq (choice (branches a)) (choice (branches b))]
  | .alt a b => choice (branches a) :: branches b
  | .times least most greedy a =>
    [fun ss => product ss (times least most greedy (choice (branches a) initial))]
  | .capture _ a => [choice (branches a)]

/-- The starts of the matches of an expression, if there are not too many. -/
def of? (r : Regex) : Option Starts := choice (branches r) initial

/-- Adds a start, unless it begins with one that is preferred. -/
def add (found : Starts) (s : Start) : Starts :=
  if found.any fun f => f.bytes.isPrefixOf s.bytes then found else found ++ [s]

def distinct (ss : Starts) : Starts := ss.foldl add []

/-- Cuts starts to lengths, until there are no more of them than stand with the length. -/
def shortened : List (Nat × Nat) → Starts → Starts
  | [], ss => ss
  | (length, most) :: rest, ss =>
    if ss.length ≤ most then ss else shortened rest (distinct (ss.map (Start.cut length)))

/-- The bytes with which two lists of bytes begin. -/
def sharedBytes : List Nat → List Nat → List Nat
  | a :: s, b :: t => if a = b then a :: sharedBytes s t else []
  | _, _ => []

/-- The bytes with which all starts begin. -/
def front : Starts → List Nat
  | [] => []
  | s :: ss => ss.foldl (fun front t => sharedBytes front t.bytes) s.bytes

/-- Whether a byte is often found in texts. -/
def isCommon (b : Nat) : Bool :=
  0xC2 ≤ b || "\n\r (),-./0129:_abcdefghilmnoprstuvxy|".toList.any fun c => c.toNat = b

/-- Whether all starts are whole matches after they are cut to what is best searched for. That is
the front of all of them if it is short and begins with a byte that is not common, or if it is long.
Many starts are cut if that leaves a few that are not too short. -/
def areMatches (ss : Starts) : Bool :=
  let kept := distinct ss
  let front := front kept
  let isFew := kept.all (·.isWhole) && kept.length ≤ 16
  if ss.isEmpty || ss.any (·.bytes.isEmpty) then false
  else if 1 < ss.length ∧ front.length ≤ 3 ∧ front.head?.any (!isCommon ·) then
    (kept.map (Start.cut 1)).all (·.isWhole)
  else if 4 < front.length ∨ (1 < front.length ∧ !isFew) then
    (kept.map (Start.cut front.length)).all (·.isWhole)
  else
    let cut := shortened [(5, 10), (4, 10), (3, 64), (2, 64), (1, 10)] kept
    kept.all (·.isWhole) &&
      (cut.all (·.isWhole) || cut.any (fun s => s.bytes.length ≤ 2) || 64 < cut.length)

end Starts

/-- Whether there are no groups to keep and no conditions on places. -/
def isPlain : Regex → Bool
  | .empty | .literal _ | .one _ => true
  | .look _ | .capture _ _ => false
  | .seq a b | .alt a b => isPlain a && isPlain b
  | .times _ _ _ a => isPlain a

/-- Whether an expression is searched for by the starts of its matches alone. -/
def needsNoAutomaton (r : Regex) : Bool := isPlain r && (Starts.of? r).any Starts.areMatches

end StyleGuide.Regex
