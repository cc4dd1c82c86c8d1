import StyleGuide.Text.Order

/-!
The documentation tree: nodes named by the segments of an id, each with an entry or without. The
children of a node are kept in ascending order of their keys.
-/

namespace StyleGuide

/-- What is documented at a node. -/
structure TreeEntry where
  id : Text
  title : Option Text := none
  description : Option Text := none
  markup : Option Text := none
  deriving DecidableEq, Repr

inductive Tree where
  | node (key : Text) (entry : Option TreeEntry) (children : List Tree)

namespace Tree

def key : Tree → Text
  | node k _ _ => k

def entry : Tree → Option TreeEntry
  | node _ e _ => e

def children : Tree → List Tree
  | node _ _ cs => cs

def leaf (key : Text) : Tree := node key none []

instance : Inhabited Tree := ⟨leaf []⟩

def setEntry (e : Option TreeEntry) : Tree → Tree
  | node k _ cs => node k e cs

/-- Changes the child with the key, which is added at its place if it is not there. -/
def alterChild (key : Text) (f : Tree → Tree) : List Tree → List Tree
  | [] => [f (leaf key)]
  | c :: cs =>
    if Text.precedes key c.key then f (leaf key) :: c :: cs
    else if key = c.key then f c :: cs
    else c :: alterChild key f cs

/-- Changes the node at the end of the path. The nodes on the way are added where they are
missing. -/
def alter (f : Tree → Tree) : (path : List Text) → Tree → Tree
  | [], t => f t
  | key :: path, node k e cs => node k e (alterChild key (alter f path) cs)

/-- Looks for a key among trees in ascending order, at the middle first. -/
def search (key : Text) (ts : List Tree) : Option Tree :=
  match _h : ts.drop (ts.length / 2) with
  | [] => none
  | middle :: above =>
    if key = middle.key then some middle
    else if Text.precedes key middle.key then search key (ts.take (ts.length / 2))
    else search key above
termination_by ts.length
decreasing_by
  · have := congrArg List.length _h
    simp only [List.length_drop, List.length_cons] at this
    simp only [List.length_take]
    omega
  · have := congrArg List.length _h
    simp only [List.length_drop, List.length_cons] at this
    omega

def child? (t : Tree) (key : Text) : Option Tree := search key t.children

/-- Follows a path down. -/
def descend? : (path : List Text) → Tree → Option Tree
  | [], t => some t
  | key :: path, t => (t.child? key).bind (descend? path)

/-- The segments between slashes, without empty ones. -/
def segments (path : Text) : List Text := (Text.pieces '/' path).filter (!·.isEmpty)

def find? (t : Tree) (path : Text) : Option Tree := t.descend? (segments path)

/-- What can be asked of a tree. -/
inductive Step where
  /-- Goes to a node and gives it an entry, if there is one to give. -/
  | insert (path : List Text) (entry : Option TreeEntry)
  | find (path : Text)
  | child (key : Text)
  | dump

inductive Answer where
  | node (t : Option Tree)
  | dump (t : Tree)

/-- The tree after a step, and the answer to it. -/
def step (t : Tree) : Step → Tree × Answer
  | .insert path e =>
    let t' := t.alter (match e with | some e => setEntry (some e) | none => id) path
    (t', .node (t'.descend? path))
  | .find path => (t, .node (t.find? path))
  | .child key => (t, .node (t.child? key))
  | .dump => (t, .dump t)

/-- The tree after all steps, and the answers in order. -/
def run (t : Tree) : List Step → Tree × List Answer
  | [] => (t, [])
  | s :: steps =>
    let (t', answer) := t.step s
    let (last, answers) := t'.run steps
    (last, answer :: answers)

end Tree

end StyleGuide
