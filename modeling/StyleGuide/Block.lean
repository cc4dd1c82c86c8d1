import StyleGuide.Text.Basic

/-!
Documentation blocks of a source text. A block runs from an opening `/**` to the nearest closing
`*/` after it; what stands in strings or other comments of the source is not told apart.
-/

namespace StyleGuide

/-- A documentation block as it stands in the source. -/
structure Block where
  text : Text
  /-- How many bytes of the source come before the block. -/
  offset : Nat
  /-- Whether the block is the first thing on its line. -/
  startsLine : Bool
  deriving DecidableEq, Repr

namespace Block

def opening : Text := ['/', '*', '*']

def closing : Text := ['*', '/']

/-- A place in a source: what is left from there on, and what is known of what came before. -/
structure Cursor where
  rest : Text
  offset : Nat := 0
  startsLine : Bool := true

namespace Cursor

/-- The next block and the place behind it. An opening that is never closed ends the search. -/
def next (c : Cursor) : Option Block × Cursor :=
  match Text.cut? opening c.rest with
  | none => (none, c)
  | some (front, body) =>
    let offset := c.offset + Text.byteSize front
    match Text.cut? closing body with
    | none => (none, ⟨[], c.offset + Text.byteSize c.rest, false⟩)
    | some (inside, rest) =>
      let text := opening ++ inside ++ closing
      let startsLine := match front.getLast? with
        | none => c.startsLine
        | some last => last = '\n'
      (some ⟨text, offset, startsLine⟩, ⟨rest, offset + Text.byteSize text, false⟩)

theorem length_rest_lt_of_next {c d : Cursor} {b : Block} (h : c.next = (some b, d)) :
    d.rest.length < c.rest.length := by
  unfold next at h
  split at h
  · simp at h
  · next front body hopen =>
    split at h
    · simp at h
    · next inside rest hclose =>
      simp only [Prod.mk.injEq] at h
      rw [← h.2]
      have hfront := Text.length_of_cut? hopen
      have hinside := Text.length_of_cut? hclose
      simp only [opening, closing, List.length_cons, List.length_nil] at hfront hinside
      simp only
      omega

/-- The blocks from a place on. -/
def blocks (c : Cursor) : List Block :=
  match _h : c.next with
  | (none, _) => []
  | (some b, d) => b :: d.blocks
termination_by c.rest.length
decreasing_by exact length_rest_lt_of_next _h

/-- What can be asked of a cursor with one bookmark. -/
inductive Step where
  | next
  | save
  | restore
  | rest
  deriving DecidableEq, Repr

inductive Answer where
  | block (b : Option Block)
  | saved
  | restored
  | rest (bs : List Block)
  deriving DecidableEq, Repr

/-- Answers the steps in turn, from the place `here` and with the bookmark `saved`. -/
def run (here saved : Cursor) : List Step → List Answer
  | [] => []
  | .next :: steps => .block here.next.1 :: run here.next.2 saved steps
  | .save :: steps => .saved :: run here here steps
  | .restore :: steps => .restored :: run saved saved steps
  | .rest :: steps => .rest here.blocks :: run here saved steps

end Cursor

/-- All blocks of a source, in order. -/
def all (source : Text) : List Block := Cursor.blocks ⟨source, 0, true⟩

end Block

end StyleGuide
