import StyleGuide.Regex.Automaton.Size

/-!
The size of an automaton for a choice between texts. Texts that begin alike share states. The order
of the texts is kept: at each node, what comes after a text that ends there stands apart from what
comes before it.
-/

namespace StyleGuide.Regex.Automaton.Trie

/-- The words that go on from a node, in chunks between those that end there. -/
structure Chunks where
  /-- The words since the last one that ended, the last one first. -/
  current : List (List Nat) := []
  /-- The chunks before them. -/
  closed : List (List (List Nat)) := []

namespace Chunks

def hasWords (c : Chunks) : Bool := !c.current.isEmpty || c.closed.any (!·.isEmpty)

/-- A word that ends closes the chunk, unless words have ended and none has gone on. -/
def add (c : Chunks) : List Nat → Chunks
  | [] => if !c.closed.isEmpty && !c.hasWords then c else ⟨[], c.current :: c.closed⟩
  | word => { c with current := word :: c.current }

def all (c : Chunks) : List (List (List Nat)) := c.current :: c.closed

end Chunks

/-- Adds what follows the first byte of a word to what follows that byte in others. -/
def addTail (groups : List (Nat × List (List Nat))) : List Nat → List (Nat × List (List Nat))
  | [] => groups
  | b :: tail =>
    match groups.lookup b with
    | none => (b, [tail]) :: groups
    | some _ => groups.map fun g => if g.1 = b then (b, tail :: g.2) else g

/-- What follows each byte with which words of a chunk begin. The last word comes first in the
chunk, and so its tail comes last. -/
def tails (chunk : List (List Nat)) : List (List (List Nat)) :=
  (chunk.foldl addTail []).map Prod.snd

/-- The state of a chunk: one transition needs no table. -/
def chunkState (groups : Nat) (s : Size) : Size :=
  match groups with
  | 0 => s
  | 1 => s.plain 1
  | n => s.table n

/-- Adds the states of a node from which words go on, with nodes of so many levels below. Where no
word goes on there is nothing to add. -/
def node : (levels : Nat) → List (List Nat) → Size → Size
  | 0, _, s => s
  | levels + 1, words, s =>
    let chunks := words.foldl Chunks.add {}
    if chunks.hasWords then
      let groups := chunks.all.map tails
      let below := groups.foldl (fun s g => g.foldl (fun s words => node levels words s) s) s
      let own := groups.foldl (fun s g => chunkState g.length s) below
      (own.plain 1).refer ((groups.filter (!·.isEmpty)).length + chunks.closed.length)
    else s

/-- The size of an automaton for words, which end in a common state. -/
def size (words : List (List Nat)) : Size :=
  node ((words.map List.length).foldl max 0) words (Size.plain 1 {})

end StyleGuide.Regex.Automaton.Trie
