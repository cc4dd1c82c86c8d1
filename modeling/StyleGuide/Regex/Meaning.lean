import StyleGuide.CharSet.Folding
import StyleGuide.Regex.Expr
import StyleGuide.Regex.Normal

/-!
What a written expression means, under the flags that are set where it stands.
-/

namespace StyleGuide.Regex

structure Flags where
  ignoreCase : Bool := false
  multiLine : Bool := false
  dotAll : Bool := false
  /-- Whether classes are of characters. Otherwise they are of bytes, and must be of ASCII. -/
  unicode : Bool := true
  crlf : Bool := false
  /-- Whether a question mark makes a repetition greedy instead of lazy. -/
  swapGreed : Bool := false
  deriving DecidableEq, Repr

namespace Flags

def set (f : Flags) (items : List FlagItem) : Flags where
  ignoreCase := (flagState? .ignoreCase items).getD f.ignoreCase
  multiLine := (flagState? .multiLine items).getD f.multiLine
  dotAll := (flagState? .dotAll items).getD f.dotAll
  unicode := (flagState? .unicode items).getD f.unicode
  crlf := (flagState? .crlf items).getD f.crlf
  swapGreed := (flagState? .swapGreed items).getD f.swapGreed

/-- A set with the other forms of its letters, if case is ignored. -/
def fold (f : Flags) (s : CharSet) : CharSet :=
  if f.ignoreCase then (if f.unicode then s.folded else s.asciiFolded) else s

def negate (f : Flags) (s : CharSet) : CharSet :=
  if f.unicode then s.negation else s.complementTo 0xFF

/-- Refuses sets of bytes that are not all ASCII. -/
def check (f : Flags) (span : Span) (s : CharSet) : Except Error CharSet :=
  if f.unicode || s.isAscii then .ok s else .error ⟨.notText, span, none⟩

/-- The forms of what stands in a class, or what is not among them. -/
def classSet (f : Flags) (span : Span) (negated : Bool) (s : CharSet) : Except Error CharSet :=
  let s := f.fold s
  f.check span (if negated then f.negate s else s)

def asciiDigits : CharSet := .range 0x30 0x39

def asciiBlanks : CharSet := ⟨[(9, 13), (0x20, 0x20)]⟩

def asciiWord : CharSet := ⟨[(0x30, 0x39), (0x41, 0x5A), (0x5F, 0x5F), (0x61, 0x7A)]⟩

def word (f : Flags) : CharSet := if f.unicode then CharSet.wordCharacters else asciiWord

def letter (f : Flags) (c : LetterClass) : Except Error CharSet :=
  let s := match c.letter with
    | .digit => if f.unicode then CharSet.digits else asciiDigits
    | .space => if f.unicode then CharSet.blanks else asciiBlanks
    | .word => f.word
  f.check c.span (if c.negated then f.negate s else s)

def property (f : Flags) (c : PropertyClass) : Except Error CharSet :=
  if f.unicode then
    match c.query.resolve with
    | .ok s => f.classSet c.span c.negated s
    | .error .property => .error ⟨.propertyUnknown, c.span, none⟩
    | .error .value => .error ⟨.valueUnknown, c.span, none⟩
  else .error ⟨.notBytes, c.span, none⟩

/-- The character of a literal. A byte that is no character by itself is refused. -/
def char (f : Flags) (l : Literal) : Except Error Char :=
  if !f.unicode && l.isByte && 0x7F < l.char.toNat then .error ⟨.notText, l.span, none⟩
  else .ok l.char

/-- The character of a literal in a class. -/
def classChar (f : Flags) (l : Literal) : Except Error Nat :=
  match f.char l with
  | .error e => .error e
  | .ok c =>
    if f.unicode || c.toNat < 0x80 then .ok c.toNat else .error ⟨.notBytes, l.span, none⟩

def range (f : Flags) (first last : Literal) : Except Error CharSet :=
  match f.classChar first, f.classChar last with
  | .error e, _ => .error e
  | _, .error e => .error e
  | .ok a, .ok b => .ok (.range a b)

def operation (f : Flags) (op : SetOperation) (left right : CharSet) : CharSet :=
  let left := f.fold left
  let right := f.fold right
  match op with
  | .inter => left.inter right
  | .diff => left.diff right
  | .symmDiff => left.symmDiff right

mutual

/-- The characters of a class. -/
def classOf (f : Flags) : ClassExpr → Except Error CharSet
  | .empty _ => .ok .empty
  | .literal l => (f.classChar l).map fun n => .range n n
  | .range _ first last => f.range first last
  | .ascii span set negated => f.classSet span negated set
  | .property c => f.property c
  | .letter c => f.letter c
  | .bracketed span negated inner =>
    match f.classOf inner with
    | .ok s => f.classSet span negated s
    | .error e => .error e
  | .union _ items => (f.classesOf items).map CharSet.unions
  | .operation _ op left right =>
    match f.classOf left, f.classOf right with
    | .error e, _ => .error e
    | _, .error e => .error e
    | .ok s, .ok t => .ok (f.operation op s t)

def classesOf (f : Flags) : List ClassExpr → Except Error (List CharSet)
  | [] => .ok []
  | e :: rest =>
    match f.classOf e, f.classesOf rest with
    | .error e, _ => .error e
    | _, .error e => .error e
    | .ok s, .ok ss => .ok (s :: ss)

end

/-- Any character, but a line end only if that is asked for. -/
def dot (f : Flags) (span : Span) : Except Error CharSet :=
  if !f.unicode then .error ⟨.notText, span, none⟩
  else if f.dotAll then .ok .all
  else if f.crlf then .ok (CharSet.complement ⟨[(10, 10), (13, 13)]⟩)
  else .ok (CharSet.complement (.range 10 10))

def lineEnd (f : Flags) : LineEnd := if f.crlf then .crlf else .newline

def look (f : Flags) : Assertion → Look
  | .startLine => if f.multiLine then .lineStart f.lineEnd else .start
  | .stopLine => if f.multiLine then .lineStop f.lineEnd else .stop
  | .startText => .start
  | .stopText => .stop
  | .wordBoundary => .boundary f.word
  | .notWordBoundary => .notBoundary f.word
  | .wordStart => .wordStart f.word
  | .wordStop => .wordStop f.word
  | .wordStartHalf => .wordStartHalf f.word
  | .wordStopHalf => .wordStopHalf f.word

end Flags

namespace Expr

mutual

/-- The meaning of an expression, and the flags that hold behind it. -/
def meaning (f : Flags) : Expr → Except Error (Regex × Flags)
  | .empty _ => .ok (.empty, f)
  | .flags _ items => .ok (.empty, f.set items)
  | .literal l => (f.char l).map fun c => (ofSet (f.fold (.range c.toNat c.toNat)), f)
  | .dot span => (f.dot span).map fun s => (ofSet s, f)
  | .assertion _ a => .ok (.look (f.look a), f)
  | .property c => (f.property c).map fun s => (ofSet s, f)
  | .letter c => (f.letter c).map fun s => (ofSet s, f)
  | .bracketed span negated inner =>
    match f.classOf inner with
    | .error e => .error e
    | .ok s => (f.classSet span negated s).map fun s => (ofSet s, f)
  | .repetition _ least most isLazy inner =>
    (inner.meaning f).map fun (r, f) => (repeated least most (isLazy == f.swapGreed) r, f)
  | .group span captures items inner =>
    (inner.meaning (f.set items)).map fun (r, _) =>
      (if captures then .capture span.start r else r, f)
  | .alternation _ branches =>
    (meanings f branches).map fun (rs, f) => (either rs, f)
  | .concat _ parts => (meanings f parts).map fun (rs, f) => (inRow rs, f)

/-- The meanings of expressions that stand one behind the other. -/
def meanings (f : Flags) : List Expr → Except Error (List Regex × Flags)
  | [] => .ok ([], f)
  | e :: rest =>
    match e.meaning f with
    | .error e => .error e
    | .ok (r, f) =>
      match meanings f rest with
      | .error e => .error e
      | .ok (rs, f) => .ok (r :: rs, f)

end

end Expr

end StyleGuide.Regex
