import StyleGuide.Comment

/-!
Reading a comment from undecorated text. The description runs to the first line that starts with
`@`. Each such line opens a parameter, and the plain lines after it continue its value.
-/

namespace StyleGuide.Comment

/-- What is done with a line that starts with `@` and names no parameter. -/
inductive Policy where
  /-- The line is dropped, and the lines that would continue it too. -/
  | drop
  /-- The text is refused. -/
  | reject
  deriving DecidableEq, Repr

/-- A line that is no part of the comment. -/
inductive Dropped where
  | malformed (line : Text)
  /-- A plain line with no parameter to continue. -/
  | orphan (line : Text)
  deriving DecidableEq, Repr

structure Reading where
  /-- Nothing if there is neither a description nor a parameter. -/
  comment : Option Comment
  dropped : List Dropped

def startsParameter : Text → Bool
  | '@' :: _ => true
  | _ => false

def valueOf (t : Text) : Value :=
  match Text.trim t with
  | [] => .flag
  | t => .text t

/-- The name and the value on a line that starts with `@`. The name is all up to the next blank. -/
def parameter? (line : Text) : Option (Text × Value) :=
  let rest := line.drop 1
  match rest.takeWhile (!Text.isBlank ·) with
  | [] => none
  | name => some (name, valueOf (rest.dropWhile (!Text.isBlank ·)))

/-- A value continued by one more line. -/
def continued (v : Value) (line : Text) : Value :=
  match Text.trim line, v with
  | [], v => v
  | more, .flag => .text more
  | more, .text t => .text (t ++ ' ' :: more)

/-- What the lines seen so far amount to. -/
structure Progress where
  /-- The parameter that a plain line would continue. -/
  current : Option Text := none
  parameters : Parameters := ∅
  dropped : List Dropped := []

namespace Progress

def dropLine (d : Dropped) (p : Progress) : Progress := { p with dropped := p.dropped ++ [d] }

/-- Takes a plain line. -/
def takePlain (p : Progress) (line : Text) : Progress :=
  match p.current with
  | some name =>
    match p.parameters.get? name with
    | some v => { p with parameters := p.parameters.insert name (continued v line) }
    | none => p
  | none => if (Text.trim line).isEmpty then p else p.dropLine (.orphan line)

/-- Takes one line, or refuses it. -/
def take (policy : Policy) (p : Progress) (line : Text) : Except Text Progress :=
  if startsParameter line then
    match parameter? line, policy with
    | some (name, v), _ =>
      .ok { p with current := some name, parameters := p.parameters.insert name v }
    | none, .drop => .ok { p.dropLine (.malformed line) with current := none }
    | none, .reject => .error line
  else .ok (p.takePlain line)

/-- Takes the lines in turn, up to the first refused one. -/
def takeAll (policy : Policy) (p : Progress) : List Text → Except Text Progress
  | [] => .ok p
  | line :: lines =>
    match p.take policy line with
    | .ok q => takeAll policy q lines
    | .error bad => .error bad

end Progress

/-- Reads a comment; the error is the first line that the policy refuses. -/
def read (policy : Policy) (t : Text) : Except Text Reading :=
  let lines := Text.lines t
  let description := Text.trim (Text.joinLines (lines.takeWhile (!startsParameter ·)))
  match Progress.takeAll policy {} (lines.dropWhile (!startsParameter ·)) with
  | .error bad => .error bad
  | .ok p =>
    let comment : Comment := ⟨description, p.parameters⟩
    .ok ⟨if comment.isEmpty then none else some comment, p.dropped⟩

end StyleGuide.Comment
