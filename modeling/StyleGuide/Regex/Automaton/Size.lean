/-!
The size of an automaton. A state takes a fixed number of bytes, and more for what it holds.
-/

namespace StyleGuide.Regex.Automaton

structure Size where
  states : Nat := 0
  /-- The transitions in the tables of states. -/
  transitions : Nat := 0
  /-- The references from forks to other states. -/
  references : Nat := 0
  deriving DecidableEq, Repr

namespace Size

def bytes (s : Size) : Nat := 32 * s.states + 8 * s.transitions + 4 * s.references

/-- The largest automaton that may be built, in bytes. -/
def limit : Nat := 10485760

def isOver (s : Size) : Bool := limit < s.bytes

instance : Add Size :=
  ⟨fun s t => ⟨s.states + t.states, s.transitions + t.transitions, s.references + t.references⟩⟩

/-- With some more states that hold nothing. -/
def plain (n : Nat) (s : Size) : Size := { s with states := s.states + n }

/-- With one more state, which holds a table. -/
def table (n : Nat) (s : Size) : Size :=
  { s with states := s.states + 1, transitions := s.transitions + n }

/-- With some more references from states that are there already. -/
def refer (n : Nat) (s : Size) : Size := { s with references := s.references + n }

end Size

end StyleGuide.Regex.Automaton
