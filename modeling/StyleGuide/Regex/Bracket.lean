import StyleGuide.Regex.Escape

/-!
Reading bracketed classes. A class holds characters, ranges and other classes; between them stand
`&&`, `--` and `~~` for what is common, what is left and what differs. The operations are taken from
left to right.
-/

namespace StyleGuide.Regex

/-- Items that stand side by side in a class. -/
structure Items where
  span : Span
  /-- The last one first. -/
  found : List ClassExpr := []

namespace Items

def push (u : Items) (e : ClassExpr) : Items :=
  ⟨⟨if u.found.isEmpty then e.span.start else u.span.start, e.span.stop⟩, e :: u.found⟩

def toClass (u : Items) : ClassExpr :=
  match u.found with
  | [] => .empty u.span
  | [e] => e
  | found => .union u.span found.reverse

end Items

/-- What a class waits for while its parts are read. -/
inductive ClassFrame where
  /-- A class that is not closed, with the items before it in the class around it. -/
  | opened (around : Items) (span : Span) (negated : Bool)
  /-- An operation, with what stands to the left of it. -/
  | operation (op : SetOperation) (left : ClassExpr)

/-- The class up to here, with the operation that it is the right side of. -/
def settle (right : ClassExpr) : List ClassFrame → ClassExpr × List ClassFrame
  | .operation op left :: frames =>
    (.operation ⟨left.span.start, right.span.stop⟩ op left right, frames)
  | frames => (right, frames)

/-- The part that an unclosed class is told by. -/
def unclosed : List ClassFrame → Option Span
  | [] => none
  | .opened _ span _ :: _ => some span
  | .operation _ _ :: frames => unclosed frames

/-- The classes that are written as `[:name:]`. -/
def asciiClasses : List (String × CharSet) := [
  ("alnum", ⟨[(0x30, 0x39), (0x41, 0x5A), (0x61, 0x7A)]⟩),
  ("alpha", ⟨[(0x41, 0x5A), (0x61, 0x7A)]⟩), ("ascii", ⟨[(0, 0x7F)]⟩),
  ("blank", ⟨[(9, 9), (0x20, 0x20)]⟩), ("cntrl", ⟨[(0, 0x1F), (0x7F, 0x7F)]⟩),
  ("digit", ⟨[(0x30, 0x39)]⟩), ("graph", ⟨[(0x21, 0x7E)]⟩), ("lower", ⟨[(0x61, 0x7A)]⟩),
  ("print", ⟨[(0x20, 0x7E)]⟩),
  ("punct", ⟨[(0x21, 0x2F), (0x3A, 0x40), (0x5B, 0x60), (0x7B, 0x7E)]⟩),
  ("space", ⟨[(9, 13), (0x20, 0x20)]⟩), ("upper", ⟨[(0x41, 0x5A)]⟩),
  ("word", ⟨[(0x30, 0x39), (0x41, 0x5A), (0x5F, 0x5F), (0x61, 0x7A)]⟩),
  ("xdigit", ⟨[(0x30, 0x39), (0x41, 0x46), (0x61, 0x66)]⟩)]

def asciiClass? (name : Text) : Option CharSet :=
  (asciiClasses.find? fun e => e.1.toList = name).map Prod.snd

namespace Cursor

/-- Reads a class of the form `[:name:]` or `[:^name:]`, if one stands here. -/
def asciiClass (c : Cursor) : Option (ClassExpr × Cursor) :=
  match c.bumpWord? ['[', ':'] with
  | none => none
  | some inside =>
    let (negated, front) := match inside.bumpWord? ['^'] with
      | some next => (true, next)
      | none => (false, inside)
    match Text.cut? [':'] front.rest with
    | none => none
    | some (name, _) =>
      match front.bumpWord? (name ++ [':', ']']) with
      | none => none
      | some next =>
        (asciiClass? name).map fun set => (.ascii (next.since c.place) set negated, next)

/-- Reads a character or an escape in a class. -/
def classAtom (c : Cursor) : Except Error (Atom × Cursor) :=
  match c.rest with
  | [] => .error ⟨.classUnclosed, c.spot, none⟩
  | '\\' :: _ => c.escape
  | a :: _ => .ok (.literal ⟨c.spanChar, a, false⟩, c.bump)

def classItem : Atom → Except Error ClassExpr
  | .literal l => .ok (.literal l)
  | .letter c => .ok (.letter c)
  | .property c => .ok (.property c)
  | .dot span | .assertion span _ => .error ⟨.classEscape, span, none⟩

def rangeEnd : Atom → Except Error Literal
  | .literal l => .ok l
  | a => .error ⟨.classRangeEnd, a.span, none⟩

/-- The range between two ends. -/
def rangeOf (first last : Atom) : Except Error ClassExpr :=
  match rangeEnd first, rangeEnd last with
  | .error e, _ => .error e
  | _, .error e => .error e
  | .ok a, .ok b =>
    let span : Span := ⟨first.span.start, last.span.stop⟩
    if a.char ≤ b.char then .ok (.range span a b) else .error ⟨.classRange, span, none⟩

/-- Reads a character or a range; `whole` is the part to tell of if the class ends before it. -/
def classRange (c : Cursor) (whole : Span) : Except Error (ClassExpr × Cursor) :=
  match c.classAtom with
  | .error e => .error e
  | .ok (first, next) =>
    let next := next.skipSpace
    match next.rest with
    | [] => .error ⟨.classUnclosed, whole, none⟩
    | '-' :: _ =>
      if next.peekSpace? = some ']' ∨ next.peekSpace? = some '-' then
        (classItem first).map fun e => (e, next)
      else
        let behind := next.bumpSpace
        if behind.atEnd then .error ⟨.classUnclosed, whole, none⟩
        else match behind.classAtom with
          | .error e => .error e
          | .ok (last, after) => (rangeOf first last).map fun e => (e, after)
    | _ => (classItem first).map fun e => (e, next)

/-- Reads hyphens at the front of a class, which stand for themselves. -/
def leadingHyphens (start : Position) : (tries : Nat) → Cursor → Items →
    Except Error (Items × Cursor)
  | 0, c, u => .ok (u, c)
  | tries + 1, c, u =>
    match c.rest with
    | '-' :: _ =>
      let u := u.push (.literal ⟨c.spanChar, '-', false⟩)
      if c.bumpSpace.atEnd then .error ⟨.classUnclosed, ⟨start, start⟩, none⟩
      else leadingHyphens start tries c.bumpSpace u
    | _ => .ok (u, c)

/-- Reads a closing bracket at the front of a class, which stands for itself. -/
def leadingBracket (start : Position) (c : Cursor) (u : Items) : Except Error (Items × Cursor) :=
  match u.found, c.rest with
  | [], ']' :: _ =>
    if c.bumpSpace.atEnd then .error ⟨.classUnclosed, c.bumpSpace.since start, none⟩
    else .ok (u.push (.literal ⟨c.spanChar, ']', false⟩), c.bumpSpace)
  | _, _ => .ok (u, c)

/-- Reads the front of a class from its opening bracket on. -/
def openClass (c : Cursor) : Except Error (Span × Bool × Items × Cursor) :=
  let start := c.place
  let inside := c.bumpSpace
  let (negated, inside) := match inside.rest with
    | '^' :: _ => (true, inside.bumpSpace)
    | _ => (false, inside)
  if inside.atEnd then .error ⟨.classUnclosed, inside.since start, none⟩
  else match leadingHyphens start inside.rest.length inside ⟨inside.spot, []⟩ with
    | .error e => .error e
    | .ok (u, next) =>
      match leadingBracket start next u with
      | .error e => .error e
      | .ok (u, next) => .ok (next.since start, negated, u, next)

def operationAt? (c : Cursor) : Option (SetOperation × Cursor) :=
  match c.rest with
  | '&' :: '&' :: _ => some (.inter, c.bump.bump)
  | '-' :: '-' :: _ => some (.diff, c.bump.bump)
  | '~' :: '~' :: _ => some (.symmDiff, c.bump.bump)
  | _ => none

/-- Reads the rest of a class with the items `u` and the frames around them, in so many steps. -/
def classSteps : (tries : Nat) → Cursor → Items → List ClassFrame → Except Error (Expr × Cursor)
  | 0, c, _, frames => .error ⟨.classUnclosed, (unclosed frames).getD c.spot, none⟩
  | tries + 1, c, u, frames =>
    let c := c.skipSpace
    match c.rest with
    | [] => .error ⟨.classUnclosed, (unclosed frames).getD c.spot, none⟩
    | '[' :: _ =>
      match c.asciiClass with
      | some (e, next) => classSteps tries next (u.push e) frames
      | none =>
        match c.openClass with
        | .error e => .error e
        | .ok (span, negated, inner, next) =>
          classSteps tries next inner (.opened u span negated :: frames)
    | ']' :: _ =>
      match settle u.toClass frames with
      | (inner, .opened around span negated :: frames) =>
        let whole : Span := ⟨span.start, c.bump.place⟩
        if frames.isEmpty then .ok (.bracketed whole negated inner, c.bump)
        else classSteps tries c.bump (around.push (.bracketed whole negated inner)) frames
      | _ => .error ⟨.classUnclosed, c.spot, none⟩
    | _ =>
      match c.operationAt? with
      | some (op, next) =>
        let (left, frames) := settle u.toClass frames
        classSteps tries next ⟨next.spot, []⟩ (.operation op left :: frames)
      | none =>
        match c.classRange ((unclosed frames).getD c.spot) with
        | .error e => .error e
        | .ok (e, next) => classSteps tries next (u.push e) frames

/-- Reads a class from its opening bracket on. -/
def bracket (c : Cursor) : Except Error (Expr × Cursor) :=
  match c.openClass with
  | .error e => .error e
  | .ok (span, negated, inner, next) =>
    classSteps (next.rest.length + 1) next inner [.opened ⟨c.spot, []⟩ span negated]

end Cursor

end StyleGuide.Regex
