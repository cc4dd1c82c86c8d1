import StyleGuide.Regex.Span
import StyleGuide.Text.Basic

/-!
Reading positions in a pattern. In a loose pattern, blanks and comments between its parts count for
nothing.
-/

namespace StyleGuide.Regex

structure Cursor where
  rest : Text
  place : Position := {}
  loose : Bool := false

namespace Cursor

def atEnd (c : Cursor) : Bool := c.rest.isEmpty

/-- The place behind the next character. -/
def bump (c : Cursor) : Cursor :=
  match c.rest with
  | [] => c
  | a :: rest => { c with rest := rest, place := c.place.after a }

/-- Skips blanks and comments. A comment runs from `#` to the end of its line. -/
def skip (inComment : Bool) (p : Position) : Text → Text × Position
  | [] => ([], p)
  | a :: rest =>
    if inComment then skip (a != '\n') (p.after a) rest
    else if Text.isBlank a then skip false (p.after a) rest
    else if a = '#' then skip true (p.after a) rest
    else (a :: rest, p)

def skipSpace (c : Cursor) : Cursor :=
  if c.loose then
    let (rest, place) := skip false c.place c.rest
    { c with rest := rest, place := place }
  else c

/-- The place behind the next character and what may be skipped there. -/
def bumpSpace (c : Cursor) : Cursor := c.bump.skipSpace

/-- Skips blanks, in any pattern. -/
def skipBlanks (p : Position) : Text → Text × Position
  | [] => ([], p)
  | a :: rest => if Text.isBlank a then skipBlanks (p.after a) rest else (a :: rest, p)

def pastBlanks (c : Cursor) : Cursor :=
  let (rest, place) := skipBlanks c.place c.rest
  { c with rest := rest, place := place }

/-- The place behind a word, if the word stands here. -/
def bumpWord? (word : Text) (c : Cursor) : Option Cursor :=
  (Text.after? word c.rest).map fun rest =>
    { c with rest := rest, place := word.foldl Position.after c.place }

/-- The place here, as an empty part of the pattern. -/
def spot (c : Cursor) : Span := ⟨c.place, c.place⟩

/-- The next character. -/
def spanChar (c : Cursor) : Span := ⟨c.place, c.bump.place⟩

/-- What was read from a place on. -/
def since (c : Cursor) (start : Position) : Span := ⟨start, c.place⟩

/-- The character after the next one. -/
def peek? (c : Cursor) : Option Char := (c.rest.drop 1).head?

/-- The first character that is not a blank and does not open a comment. -/
def firstSolid? (inComment : Bool) : Text → Option Char
  | [] => none
  | a :: rest =>
    if Text.isBlank a then firstSolid? inComment rest
    else if !inComment && a = '#' then firstSolid? true rest
    else some a

/-- The character after the next one, in a loose pattern past blanks and the sign of a comment. If
nothing else follows there, blanks count. -/
def peekSpace? (c : Cursor) : Option Char :=
  if c.loose then (firstSolid? false (c.rest.drop 1)).or c.peek? else c.peek?

/-- The characters from here on that pass a test, where parts of the pattern may be skipped between
them, with `tries` to find them. -/
def collect (test : Char → Bool) : (tries : Nat) → Cursor → Text × Cursor
  | 0, c => ([], c)
  | tries + 1, c =>
    match c.rest with
    | [] => ([], c)
    | a :: _ =>
      if test a then
        let (found, last) := collect test tries c.bumpSpace
        (a :: found, last)
      else ([], c)

/-- The characters from here on that pass a test. -/
def takeWhile (test : Char → Bool) (c : Cursor) : Text × Cursor := collect test c.rest.length c

end Cursor

end StyleGuide.Regex
