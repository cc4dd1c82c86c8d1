import StyleGuide.Regex.Cursor
import StyleGuide.Regex.Expr

/-!
Reading what a backslash opens: literals, classes with a letter or a property, and assertions.
-/

namespace StyleGuide.Regex

/-- The parts of a pattern that have no parts. -/
inductive Atom where
  | literal (l : Literal)
  | dot (span : Span)
  | assertion (span : Span) (a : Assertion)
  | property (c : PropertyClass)
  | letter (c : LetterClass)
  deriving DecidableEq, Repr

namespace Atom

def span : Atom → Span
  | literal l => l.span
  | dot s => s
  | assertion s _ => s
  | property c => c.span
  | letter c => c.span

def toExpr : Atom → Expr
  | literal l => .literal l
  | dot s => .dot s
  | assertion s a => .assertion s a
  | property c => .property c
  | letter c => .letter c

end Atom

namespace Cursor

def isHex (c : Char) : Bool :=
  ('0' ≤ c && c ≤ '9') || ('a' ≤ c && c ≤ 'f') || ('A' ≤ c && c ≤ 'F')

def hexValue (t : Text) : Nat :=
  t.foldl (fun n c => n * 16 + CharSet.digitValue c.toLower) 0

/-- The character with a code point, if it has one. -/
def charOf? (n : Nat) : Option Char :=
  if n < 0xD800 ∨ (0xDFFF < n ∧ n < 0x110000) then some (Char.ofNat n) else none

/-- Reads a given number of hexadecimal digits. -/
def hexDigits (c : Cursor) : (count : Nat) → Except Error (Text × Cursor)
  | 0 => .ok ([], c)
  | count + 1 =>
    match c.rest with
    | [] => .error ⟨.escapeEnd, c.spot, none⟩
    | a :: _ =>
      if isHex a then
        match hexDigits c.bumpSpace count with
        | .ok (found, last) => .ok (a :: found, last)
        | .error e => .error e
      else .error ⟨.hexDigit, c.spanChar, none⟩

/-- Reads a character as so many hexadecimal digits. -/
def hexFixed (c : Cursor) (start : Position) (count : Nat) : Except Error (Literal × Cursor) :=
  match c.hexDigits count with
  | .error e => .error e
  | .ok (digits, last) =>
    match charOf? (hexValue digits) with
    | some a => .ok (⟨last.since start, a, count = 2⟩, last)
    | none => .error ⟨.hexInvalid, last.since c.place, none⟩

/-- Reads a character as hexadecimal digits in braces. -/
def hexBraced (c : Cursor) (start : Position) : Except Error (Literal × Cursor) :=
  let (digits, last) := c.bumpSpace.takeWhile isHex
  match last.rest with
  | [] => .error ⟨.escapeEnd, last.since c.place, none⟩
  | '}' :: _ =>
    let next := last.bumpSpace
    if digits.isEmpty then .error ⟨.hexEmpty, next.since c.place, none⟩
    else match charOf? (hexValue digits) with
      | some a => .ok (⟨next.since start, a, false⟩, next)
      | none => .error ⟨.hexInvalid, ⟨c.bump.place, last.place⟩, none⟩
  | _ => .error ⟨.hexDigit, last.spanChar, none⟩

/-- Reads a character by its number, from the letter that says how many digits it has. -/
def hex (c : Cursor) (start : Position) (count : Nat) : Except Error (Literal × Cursor) :=
  let c := c.bumpSpace
  match c.rest with
  | [] => .error ⟨.escapeEnd, c.spot, none⟩
  | '{' :: _ => c.hexBraced start
  | _ => c.hexFixed start count

/-- What is asked for between braces, and whether it is asked for by what it is not. -/
def queryOf (t : Text) : CharSet.Query × Bool :=
  match Text.cut? ['!', '='] t with
  | some (n, v) => (.value n v, true)
  | none =>
    match Text.cut? [':'] t with
    | some (n, v) => (.value n v, false)
    | none =>
      match Text.cut? ['='] t with
      | some (n, v) => (.value n v, false)
      | none => (.name t, false)

/-- Reads a property, from its letter on. -/
def property (c : Cursor) (start : Position) (negated : Bool) :
    Except Error (PropertyClass × Cursor) :=
  let c := c.bumpSpace
  match c.rest with
  | [] => .error ⟨.escapeEnd, c.spot, none⟩
  | '{' :: _ =>
    let (found, last) := c.bumpSpace.takeWhile (· != '}')
    if last.atEnd then .error ⟨.escapeEnd, last.spot, none⟩
    else
      let (query, opposite) := queryOf found
      .ok (⟨last.bump.since start, query, negated != opposite⟩, last.bump)
  | '\\' :: _ => .error ⟨.propertyInvalid, c.spanChar, none⟩
  | a :: _ => .ok (⟨c.bumpSpace.since start, .name [a], negated⟩, c.bumpSpace)

def isWordLetter (c : Char) : Bool :=
  ('A' ≤ c && c ≤ 'Z') || ('a' ≤ c && c ≤ 'z') || c = '-'

def wordAssertion? (name : Text) : Option Assertion :=
  if name = "start".toList then some .wordStart
  else if name = "end".toList then some .wordStop
  else if name = "start-half".toList then some .wordStartHalf
  else if name = "end-half".toList then some .wordStopHalf
  else none

/-- Reads the name of a word boundary in braces, if a name stands there. -/
def wordBoundary (c : Cursor) (start : Position) : Except Error (Option Assertion × Cursor) :=
  match c.rest with
  | '{' :: _ =>
    let inside := c.bumpSpace
    match inside.rest with
    | [] => .error ⟨.wordEnd, inside.since start, none⟩
    | a :: _ =>
      if isWordLetter a then
        let (name, last) := inside.takeWhile isWordLetter
        match last.rest with
        | '}' :: _ =>
          match wordAssertion? name with
          | some found => .ok (some found, last.bump)
          | none => .error ⟨.wordUnknown, last.since inside.place, none⟩
        | _ => .error ⟨.wordUnclosed, last.since c.place, none⟩
      else .ok (none, c)
  | _ => .ok (none, c)

def isMeta (c : Char) : Bool := "\\.+*?()|[]\x7b\x7d^$#&-~".toList.contains c

/-- Characters that stand for themselves behind a backslash: all of ASCII but letters, digits and
angle brackets. -/
def isEscapable (c : Char) : Bool :=
  isMeta c || (c.toNat < 0x80 && !c.isAlphanum && c != '<' && c != '>')

def controlOf? : Char → Option Char
  | 'a' => some (Char.ofNat 7)
  | 'f' => some (Char.ofNat 12)
  | 't' => some '\t'
  | 'n' => some '\n'
  | 'r' => some '\r'
  | 'v' => some (Char.ofNat 11)
  | _ => none

def assertionOf? : Char → Option Assertion
  | 'A' => some .startText
  | 'z' => some .stopText
  | 'B' => some .notWordBoundary
  | '<' => some .wordStart
  | '>' => some .wordStop
  | _ => none

def letterOf? : Char → Option (Letter × Bool)
  | 'd' => some (.digit, false)
  | 'D' => some (.digit, true)
  | 's' => some (.space, false)
  | 'S' => some (.space, true)
  | 'w' => some (.word, false)
  | 'W' => some (.word, true)
  | _ => none

/-- Reads an escape that is a backslash and one character. -/
def shortEscape (c : Cursor) (start : Position) (a : Char) : Except Error (Atom × Cursor) :=
  let next := c.bump
  let span := next.since start
  if isEscapable a then .ok (.literal ⟨span, a, false⟩, next)
  else match controlOf? a, assertionOf? a, letterOf? a with
    | some b, _, _ => .ok (.literal ⟨span, b, false⟩, next)
    | _, some found, _ => .ok (.assertion span found, next)
    | _, _, some (letter, negated) => .ok (.letter ⟨span, letter, negated⟩, next)
    | _, _, _ => .error ⟨.escapeUnknown, span, none⟩

/-- Reads what a backslash opens, from the backslash on. -/
def escape (c : Cursor) : Except Error (Atom × Cursor) :=
  let start := c.place
  let c := c.bump
  match c.rest with
  | [] => .error ⟨.escapeEnd, c.since start, none⟩
  | a :: _ =>
    if a.isDigit then .error ⟨.backreference, ⟨start, c.bump.place⟩, none⟩
    else match a with
      | 'x' => (c.hex start 2).map fun (l, next) => (.literal l, next)
      | 'u' => (c.hex start 4).map fun (l, next) => (.literal l, next)
      | 'U' => (c.hex start 8).map fun (l, next) => (.literal l, next)
      | 'p' => (c.property start false).map fun (p, next) => (.property p, next)
      | 'P' => (c.property start true).map fun (p, next) => (.property p, next)
      | 'b' =>
        match c.bump.wordBoundary start with
        | .error e => .error e
        | .ok (none, next) => .ok (.assertion (c.bump.since start) .wordBoundary, next)
        | .ok (some found, next) => .ok (.assertion (next.since start) found, next)
      | a => c.shortEscape start a

end Cursor

end StyleGuide.Regex
