import StyleGuide.Regex.Bracket
import StyleGuide.Text.Letter

/-!
Reading a pattern. Groups and alternations that are not finished wait in a stack of frames while
their parts are read.
-/

namespace StyleGuide.Regex

/-- Parts in a row that are being read. -/
structure Row where
  start : Position
  /-- The last one first. -/
  found : List Expr := []

namespace Row

def push (r : Row) (e : Expr) : Row := { r with found := e :: r.found }

def finish (r : Row) (stop : Position) : Expr := .ofParts ⟨r.start, stop⟩ r.found.reverse

end Row

inductive Frame where
  /-- A group that is not closed, with the row it stands in and whether that row is loose. -/
  | group (around : Row) (span : Span) (captures : Bool) (items : List FlagItem) (loose : Bool)
  /-- The branches of an alternation so far, the last one first. -/
  | alternation (start : Position) (branches : List Expr)

/-- How far a pattern is read. -/
structure State where
  cursor : Cursor
  row : Row
  frames : List Frame := []
  /-- The names of groups, with their places. -/
  names : List (Text × Span) := []

/-- What a parenthesis opens. -/
inductive Opening where
  /-- Flags for the rest of the group around them. -/
  | flags (span : Span) (items : List FlagItem)
  | group (captures : Bool) (items : List FlagItem)

namespace Cursor

/-- Reads a number of at most 32 bits. Blanks may stand around it. -/
def count (c : Cursor) : Except Error Nat × Cursor :=
  let c := c.pastBlanks
  let (digits, last) := c.takeWhile Char.isDigit
  let span := last.since c.place
  let value := digits.foldl (fun n d => n * 10 + (d.toNat - 48)) 0
  (if digits.isEmpty then .error ⟨.countMissing, span, none⟩
    else if value < 0x100000000 then .ok value
    else .error ⟨.countInvalid, span, none⟩, last.pastBlanks)

/-- Reads what stands in the braces of a repetition, up to the closing one. -/
def bounds (c : Cursor) : Except Error (Nat × Option Nat × Cursor) :=
  let unclosed (d : Cursor) : Except Error (Nat × Option Nat × Cursor) :=
    .error ⟨.countUnclosed, d.since c.place, none⟩
  let inside := c.bumpSpace
  if inside.atEnd then unclosed inside
  else
    let (least, next) := inside.count
    match next.rest with
    | [] => unclosed next
    | ',' :: _ =>
      let behind := next.bumpSpace
      match behind.rest with
      | [] => unclosed behind
      | '}' :: _ => least.map fun n => (n, none, behind)
      | _ =>
        match least, behind.count with
        | .error e, _ => .error e
        | _, (.error e, _) => .error e
        | .ok n, (.ok m, last) =>
          match last.rest with
          | '}' :: _ => .ok (n, some m, last)
          | _ => unclosed last
    | '}' :: _ => least.map fun n => (n, some n, next)
    | _ =>
      match least with
      | .error e => .error e
      | .ok _ => unclosed next

/-- Whether a question mark stands here, and the place behind it. -/
def question (c : Cursor) : Bool × Cursor :=
  match c.bumpWord? ['?'] with
  | some next => (true, next)
  | none => (false, c)

def flagOf? : Char → Option Flag
  | 'i' => some .ignoreCase
  | 'm' => some .multiLine
  | 's' => some .dotAll
  | 'U' => some .swapGreed
  | 'u' => some .unicode
  | 'R' => some .crlf
  | 'x' => some .loose
  | _ => none

/-- Reads the flags of a group up to a colon or a closing parenthesis. Those read before come the
last one first, each with its place. -/
def flagItems (read : List (FlagItem × Span)) (place : Position) :
    Text → Except Error (List (FlagItem × Span) × Text × Position)
  | [] => .error ⟨.flagEnd, ⟨place, place⟩, none⟩
  | a :: rest =>
    let span : Span := ⟨place, place.after a⟩
    if a = ':' ∨ a = ')' then
      match read with
      | (.negation, last) :: _ => .error ⟨.flagDangling, last, none⟩
      | _ => .ok (read.reverse, a :: rest, place)
    else
      match if a = '-' then some .negation else (flagOf? a).map FlagItem.flag with
      | none => .error ⟨.flagUnknown, span, none⟩
      | some item =>
        match read.find? fun e => e.1 = item with
        | some (_, earlier) =>
          .error ⟨if a = '-' then .flagNegatedTwice else .flagTwice, span, some earlier⟩
        | none => flagItems ((item, span) :: read) span.stop rest

def isNameStart (c : Char) : Bool := c = '_' || Text.isAlphabetic c

def isNamePart (c : Char) : Bool :=
  c = '_' || c = '.' || c = '[' || c = ']' || Text.isAlphanumeric c

/-- The characters of a group's name, up to the closing angle bracket. -/
def nameChars (place : Position) (isFirst : Bool) : Text → Except Error (Text × Text × Position)
  | [] => .error ⟨.nameEnd, ⟨place, place⟩, none⟩
  | a :: rest =>
    if a = '>' then .ok ([], rest, place)
    else if isNamePart a && (!isFirst || isNameStart a) then
      match nameChars (place.after a) false rest with
      | .ok (name, last, stop) => .ok (a :: name, last, stop)
      | .error e => .error e
    else .error ⟨.nameInvalid, ⟨place, place.after a⟩, none⟩

/-- Reads the name of a group behind its opening angle bracket. -/
def groupName (c : Cursor) (names : List (Text × Span)) : Except Error (Text × Span × Cursor) :=
  match nameChars c.place true c.rest with
  | .error e => .error e
  | .ok (name, rest, stop) =>
    let span : Span := ⟨c.place, stop⟩
    if name.isEmpty then .error ⟨.nameEmpty, c.spot, none⟩
    else match names.lookup name with
      | some earlier => .error ⟨.nameTwice, span, some earlier⟩
      | none => .ok (name, span, { c with rest := rest, place := stop.after '>' })

/-- The place behind the sign of a look-around, if one stands here. -/
def pastLookAround? (c : Cursor) : Option Cursor :=
  (c.bumpWord? "?=".toList).or <| (c.bumpWord? "?!".toList).or <|
    (c.bumpWord? "?<=".toList).or (c.bumpWord? "?<!".toList)

/-- Reads flags behind a question mark, and what they are for. -/
def flagsOrGroup (c : Cursor) (opening : Span) (inner : Span) :
    Except Error (Opening × Cursor) :=
  if c.atEnd then .error ⟨.groupUnclosed, opening, none⟩
  else match flagItems [] c.place c.rest with
    | .error e => .error e
    | .ok (read, rest, place) =>
      let last := { c with rest := rest, place := place }
      let items := read.map Prod.fst
      match rest with
      | ')' :: _ =>
        if items.isEmpty then .error ⟨.repetitionMissing, inner, none⟩
        else .ok (.flags ⟨opening.start, last.bump.place⟩ items, last.bump)
      | _ => .ok (.group false items, last.bump)

/-- Reads the front of a group, and gives the names of groups with its own. -/
def openGroup (c : Cursor) (names : List (Text × Span)) :
    Except Error (Opening × List (Text × Span) × Cursor) :=
  let opening := c.spanChar
  let inside := c.bumpSpace
  match inside.pastLookAround? with
  | some next => .error ⟨.lookAround, next.since opening.start, none⟩
  | none =>
    match (inside.bumpWord? "?P<".toList).or (inside.bumpWord? "?<".toList) with
    | some next =>
      match next.groupName names with
      | .error e => .error e
      | .ok (name, span, last) => .ok (.group true [], (name, span) :: names, last)
    | none =>
      match inside.bumpWord? ['?'] with
      | some next =>
        match next.flagsOrGroup opening inside.spot with
        | .error e => .error e
        | .ok (o, last) => .ok (o, names, last)
      | none => .ok (.group true [], names, inside)

end Cursor

namespace State

/-- Reads an atom outside of brackets. -/
def atom (s : State) (a : Char) : Except Error State :=
  let c := s.cursor
  let found : Except Error (Atom × Cursor) := match a with
    | '\\' => c.escape
    | '.' => .ok (.dot c.spanChar, c.bump)
    | '^' => .ok (.assertion c.spanChar .startLine, c.bump)
    | '$' => .ok (.assertion c.spanChar .stopLine, c.bump)
    | a => .ok (.literal ⟨c.spanChar, a, false⟩, c.bump)
  found.map fun (x, next) => { s with cursor := next, row := s.row.push x.toExpr }

def bracket (s : State) : Except Error State :=
  s.cursor.bracket.map fun (e, next) => { s with cursor := next, row := s.row.push e }

/-- The last part of the row, which is to be repeated, and the row before it. -/
def repeatable (s : State) : Except Error (Expr × Row) :=
  match s.row.found with
  | e :: before =>
    if e.isRepeatable then .ok (e, { s.row with found := before })
    else .error ⟨.repetitionMissing, s.cursor.spot, none⟩
  | [] => .error ⟨.repetitionMissing, s.cursor.spot, none⟩

/-- Reads one of the signs `?`, `*` and `+`, and a question mark behind it. -/
def sign (s : State) (least : Nat) (most : Option Nat) : Except Error State :=
  s.repeatable.map fun (e, row) =>
    let (isLazy, next) := s.cursor.bump.question
    { s with
      cursor := next
      row := row.push (.repetition ⟨e.span.start, next.place⟩ least most isLazy e) }

/-- Reads a repetition in braces, and a question mark behind it. -/
def braces (s : State) : Except Error State :=
  match s.repeatable with
  | .error e => .error e
  | .ok (e, row) =>
    match s.cursor.bounds with
    | .error fault => .error fault
    | .ok (least, most, last) =>
      let (isLazy, next) := last.bumpSpace.question
      if most.any (· < least) then .error ⟨.countRange, next.since s.cursor.place, none⟩
      else .ok { s with
        cursor := next
        row := row.push (.repetition ⟨e.span.start, next.place⟩ least most isLazy e) }

/-- Reads a parenthesis that opens a group or sets flags. -/
def opened (s : State) : Except Error State :=
  match s.cursor.openGroup s.names with
  | .error e => .error e
  | .ok (.flags span items, names, next) =>
    let loose := (flagState? .loose items).getD next.loose
    .ok { s with
      cursor := { next with loose := loose }
      row := s.row.push (.flags span items)
      names := names }
  | .ok (.group captures items, names, next) =>
    let loose := (flagState? .loose items).getD next.loose
    .ok {
      cursor := { next with loose := loose }
      row := ⟨next.place, []⟩
      frames := .group s.row s.cursor.spanChar captures items next.loose :: s.frames
      names := names }

/-- Closes a group whose content is read. -/
def closeWith (s : State) (content : Expr) : List Frame → Except Error State
  | .group around span captures items loose :: frames =>
    let next := { s.cursor.bump with loose := loose }
    .ok { s with
      cursor := next
      row := around.push (.group ⟨span.start, next.place⟩ captures items content)
      frames := frames }
  | _ => .error ⟨.groupUnopened, s.cursor.spanChar, none⟩

/-- The branches with the last one, which ends here. -/
def lastBranch (s : State) (start : Position) (branches : List Expr) : Expr :=
  .alternation ⟨start, s.cursor.place⟩ (s.row.finish s.cursor.place :: branches).reverse

/-- Reads a parenthesis that closes a group. -/
def closed (s : State) : Except Error State :=
  match s.frames with
  | .alternation start branches :: frames => s.closeWith (s.lastBranch start branches) frames
  | frames => s.closeWith (s.row.finish s.cursor.place) frames

/-- Reads the bar between two branches. -/
def bar (s : State) : State :=
  let branch := s.row.finish s.cursor.place
  let next := s.cursor.bump
  let frames := match s.frames with
    | .alternation start branches :: frames => .alternation start (branch :: branches) :: frames
    | frames => .alternation s.row.start [branch] :: frames
  { s with cursor := next, row := ⟨next.place, []⟩, frames := frames }

/-- Reads what begins with a character. -/
def step (s : State) (a : Char) : Except Error State :=
  match a with
  | '(' => s.opened
  | ')' => s.closed
  | '|' => .ok s.bar
  | '[' => s.bracket
  | '?' => s.sign 0 (some 1)
  | '*' => s.sign 0 none
  | '+' => s.sign 1 none
  | '{' => s.braces
  | a => s.atom a

/-- The whole expression at the end of the pattern. -/
def finish (s : State) : Except Error Expr :=
  match s.frames with
  | [] => .ok (s.row.finish s.cursor.place)
  | [.alternation start branches] => .ok (s.lastBranch start branches)
  | .group _ span _ _ _ :: _ => .error ⟨.groupUnclosed, span, none⟩
  | .alternation _ _ :: .group _ span _ _ _ :: _ => .error ⟨.groupUnclosed, span, none⟩
  | .alternation _ _ :: _ => .error ⟨.groupUnclosed, s.cursor.spot, none⟩

/-- Reads to the end of the pattern, in so many steps. -/
def run : (tries : Nat) → State → Except Error Expr
  | 0, s => s.finish
  | tries + 1, s =>
    let s := { s with cursor := s.cursor.skipSpace }
    match s.cursor.rest with
    | [] => s.finish
    | a :: _ =>
      match s.step a with
      | .ok next => run tries next
      | .error e => .error e

end State

/-- Reads a pattern. Each step takes at least one character. -/
def Expr.read (pattern : Text) : Except Error Expr :=
  State.run (pattern.length + 1) { cursor := { rest := pattern }, row := ⟨{}, []⟩ }

end StyleGuide.Regex
