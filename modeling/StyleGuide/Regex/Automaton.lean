import StyleGuide.Regex.Automaton.Class
import StyleGuide.Regex.Automaton.Trie
import StyleGuide.Regex.Normal

/-!
How large the automaton of an expression is. A repeated part is built as often as it has to match,
so that a short expression can have a large automaton. States are counted in the order in which they
are made, because the numbers of states decide what the automata of sets share.
-/

namespace StyleGuide.Regex

namespace Automaton

/-- How an automaton reads a text. One that reads from behind does not keep groups. -/
inductive Direction where
  | forward
  | backward
  deriving DecidableEq, Repr

/-- An automaton that ends in a state from which there is no way yet. -/
structure Piece where
  size : Size
  /-- Whether it ends in a fork, for which a way is one more reference. -/
  endsInFork : Bool := false

/-- The size with a way from the end to another state. -/
def Piece.led (p : Piece) : Size := if p.endsInFork then p.size.refer 1 else p.size

/-- What an expression adds to an automaton. -/
abbrev Growth := Size → Piece

namespace Growth

def ofSet (d : Direction) (set : CharSet) : Growth :=
  if set.isAscii then fun s => ⟨(s.plain 1).table set.ranges.length, false⟩
  else
    let ps := setRanges set
    match d with
    | .forward => fun s => ⟨Forward.parts ps s, false⟩
    | .backward => fun s => ⟨Backward.parts ps s, false⟩

def seq (d : Direction) (f g : Growth) : Growth :=
  match d with
  | .forward => fun s => g (f s).led
  | .backward => fun s => f (g s).led

/-- One branch of a choice, to which a fork leads and which leads to the end of the choice. -/
def branch (s : Size) (f : Growth) : Size := (f s).led.refer 1

/-- One of several. The fork and the end come behind the first two branches. -/
def choice : List Growth → Growth
  | [] => fun s => ⟨s, false⟩
  | [f] => f
  | f :: g :: others => fun s =>
    ⟨others.foldl branch ((branch (branch s f) g).plain 2), false⟩

/-- A choice between texts. -/
def texts (d : Direction) (ts : List Text) : Growth :=
  let words := ts.map textBytes
  let size := Trie.size (match d with
    | .forward => words
    | .backward => words.map List.reverse)
  fun s => ⟨s + size, false⟩

/-- Goes on with a part so many times. An automaton that is too large would only grow. -/
def again (f : Growth) : Nat → Piece → Piece
  | 0, p => p
  | n + 1, p => if p.size.isOver then p else again f n (f p.led)

def exactly (f : Growth) : Nat → Growth
  | 0 => fun s => ⟨s.plain 1, false⟩
  | n + 1 => fun s => again f n (f s)

/-- Once or not at all: a fork, the part, and the end of both. -/
def optional (f : Growth) : Growth := fun s => ⟨(f ((s.plain 1).refer 2)).led.plain 1, false⟩

/-- Any number of times. The fork that leads back to the part is enough, unless the part can be
passed without a character. -/
def star (isSolid : Bool) (f : Growth) : Growth :=
  if isSolid then fun s => ⟨(f ((s.plain 1).refer 1)).led, true⟩
  else fun s => ⟨((f s).led.plain 3).refer 4, false⟩

/-- At least once and then any number of times. -/
def plus (f : Growth) : Growth := fun s => ⟨((f s).led.plain 1).refer 1, true⟩

/-- Goes on up to so many times. Before each time a fork leads to the end. -/
def upTo (f : Growth) : Nat → Piece → Piece
  | 0, p => p
  | n + 1, p => if p.size.isOver then p else upTo f n (f ((p.led.plain 1).refer 2))

def times (least : Nat) (most : Option Nat) (isSolid : Bool) (f : Growth) : Growth :=
  match least, most with
  | 0, some 1 => optional f
  | 0, none => star isSolid f
  | 1, none => plus f
  | n + 1, none => fun s => plus f (exactly f n s).led
  | n, some m =>
    if n = m then exactly f n
    else fun s =>
      let p := exactly f n s
      ⟨(upTo f (m - n) ⟨p.size.plain 1, p.endsInFork⟩).led, false⟩

/-- A group that is kept: a state in front of it and one behind it. -/
def capture (d : Direction) (f : Growth) : Growth :=
  match d with
  | .forward => fun s => ⟨(f (s.plain 1)).led.plain 1, false⟩
  | .backward => f

end Growth

/-- The texts of a choice that has no other branches. -/
def choiceTexts? : Regex → Option (List Text)
  | .alt a b => (addBranches [a] b).reverse.mapM fun
    | .literal t => some t
    | _ => none
  | _ => none

/-- The least length of a match, if there are matches of all parts. -/
def leastLength? : Regex → Option Nat
  | .empty | .look _ => some 0
  | .literal t => some t.length
  | .one s => if s.ranges.isEmpty then none else some 1
  | .seq a b => (leastLength? a).bind fun n => (leastLength? b).map (n + ·)
  | .alt a b => (leastLength? a).bind fun n => (leastLength? b).map (min n)
  | .times least _ _ a => (leastLength? a).map (least * ·)
  | .capture _ a => leastLength? a

/-- Whether no match is empty. -/
def isSolid (r : Regex) : Bool := (leastLength? r).any (0 < ·)

/-- What an expression with these branches adds. -/
def whole (d : Direction) (r : Regex) (branches : List Growth) : Growth :=
  match choiceTexts? r with
  | some ts => .texts d ts
  | none => .choice branches

/-- What the branches of an expression add, one by one; what is no choice is its only branch. -/
def branches (d : Direction) : Regex → List Growth
  | .empty | .look _ => [fun s => ⟨s.plain 1, false⟩]
  | .literal t => [fun s => ⟨s.plain t.byteSize, false⟩]
  | .one set => [.ofSet d set]
  | .seq a b => [.seq d (whole d a (branches d a)) (whole d b (branches d b))]
  | .alt a b => whole d a (branches d a) :: branches d b
  | .times least most _ a => [.times least most (isSolid a) (whole d a (branches d a))]
  | .capture _ a => [.capture d (whole d a (branches d a))]

def growth (d : Direction) (r : Regex) : Growth := whole d r (branches d r)

/-- The place of a text from which an automaton reads. -/
def Direction.origin : Direction → Look
  | .forward => .start
  | .backward => .stop

/-- Whether a match must touch the place from which the automaton reads. If no match has a
character, what is read after it decides, as `beyond` says. -/
def isAnchored (d : Direction) (beyond : Bool) : Regex → Bool
  | .empty => beyond
  | .literal t => t.isEmpty && beyond
  | .one _ => false
  | .look l => l = d.origin || beyond
  | .seq a b =>
    match d with
    | .forward => isAnchored d (isAnchored d beyond b) a
    | .backward => isAnchored d (isAnchored d beyond a) b
  | .alt a b =>
    (isAnchored d false a && isAnchored d false b) ||
      (beyond && isAlwaysEmpty a && isAlwaysEmpty b)
  | .times least _ _ a => (0 < least && isAnchored d false a) || (beyond && isAlwaysEmpty a)
  | .capture _ a => isAnchored d beyond a

/-- What stands in front: a state if a match begins there, and otherwise a loop over any bytes, with
a way from the loop to the expression. -/
def front (isAnchored : Bool) : Size :=
  if isAnchored then Size.plain 1 {} else ((Size.plain 2 {}).table 1).refer 2

/-- The size of an automaton for the whole expression, with a state for the match at its end. -/
def sizeIn (d : Direction) (r : Regex) : Size :=
  (Growth.capture d (growth d r) (front (isAnchored d false r))).led.plain 1

end Automaton

end StyleGuide.Regex
