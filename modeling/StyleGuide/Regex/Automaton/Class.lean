import Std.Data.HashMap
import StyleGuide.Regex.Automaton.Size
import StyleGuide.Regex.Automaton.Utf8

/-!
The size of an automaton for a set of characters. Parts of the set whose bytes end alike share
states, as far as a table of the states made so far knows them. The table has a fixed number of
slots, and a state goes into the slot that a hash of it gives, in place of the one before.
-/

namespace StyleGuide.Regex.Automaton

/-- The hash of some numbers, each of which is mixed in and multiplied by a prime. -/
def digest (ns : List Nat) : UInt64 :=
  ns.foldl (fun h n => (h ^^^ n.toUInt64) * 1099511628211) 14695981039346656037

/-- An automaton being built, with the states that are known by what they are made of. -/
structure Shared (κ : Type) where
  size : Size
  known : Std.HashMap Nat (κ × Nat) := ∅

/-- The number of the state made of `key`. If it is not known it is a new one. -/
def Shared.state {κ : Type} [DecidableEq κ] (s : Shared κ) (slot : Nat) (key : κ)
    (grow : Size → Size) : Nat × Shared κ :=
  match s.known[slot]?.filter fun e => e.1 = key with
  | some (_, n) => (n, s)
  | none => (s.size.states, ⟨grow s.size, s.known.insert slot (key, s.size.states)⟩)

/-- A way from a state to another one by some bytes. -/
structure Edge where
  bytes : Nat × Nat
  next : Nat
  deriving DecidableEq, Repr

namespace Forward

/-- The state with some edges. -/
def table (edges : List Edge) (s : Shared (List Edge)) : Nat × Shared (List Edge) :=
  let h := digest (edges.flatMap fun e => [e.bytes.1, e.bytes.2, e.next])
  s.state (h % 10000).toNat edges (Size.table edges.length)

/-- A state that is not finished: its last edge leads to the next one on the path. -/
structure Waiting where
  edges : List Edge
  last : Nat × Nat

/-- Finishes the states of a path from its end, and gives the first one. -/
def close (target : Nat) : List Waiting → Shared (List Edge) → Nat × Shared (List Edge)
  | [], s => (target, s)
  | w :: path, s =>
    let (next, s) := close target path s
    table (w.edges ++ [⟨w.last, next⟩]) s

/-- Takes a path to another part of the set. Where the parts agree, states stay on the path. -/
def add (target : Nat) : ByteRanges → List Waiting → Shared (List Edge) →
    List Waiting × Shared (List Edge)
  | r :: part, w :: path, s =>
    if w.last = r then
      let (path, s) := add target part path s
      (w :: path, s)
    else
      let (next, s) := close target path s
      (⟨w.edges ++ [⟨w.last, next⟩], r⟩ :: part.map fun r => ⟨[], r⟩, s)
  | part, _, s => (part.map fun r => ⟨[], r⟩, s)

/-- Adds the states for parts of a set in ascending order. All lead to the state in front. -/
def parts (ps : List ByteRanges) (s : Size) : Size :=
  let (path, shared) := ps.foldl (fun (path, shared) p => add s.states p path shared)
    ([], ⟨s.plain 1, ∅⟩)
  (close s.states path shared).2.size

end Forward

namespace Backward

/-- Adds the states for one part, from its first byte on. -/
def part (target : Nat) (s : Shared Edge) (p : ByteRanges) : Shared Edge :=
  (p.foldl (fun (next, s) bytes =>
    s.state (digest [next, bytes.1, bytes.2] % 1000).toNat ⟨bytes, next⟩ (Size.plain 1))
    (target, s)).2

/-- Adds the states for parts of a set, a fork to their last bytes and the state behind their first
ones. -/
def parts (ps : List ByteRanges) (s : Size) : Size :=
  (ps.foldl (part (s.states + 1)) ⟨s.plain 2, ∅⟩).size.refer ps.length

end Backward

end StyleGuide.Regex.Automaton
